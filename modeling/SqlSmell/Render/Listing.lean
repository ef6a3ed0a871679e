import SqlSmell.Render.Colour
import SqlSmell.Render.Document
import SqlSmell.Render.Yaml
import SqlSmell.Report

/- Reports and rule lists in the format of one's choice. -/
namespace SqlSmell.Render

/-- The formats of output. -/
inductive Format
  | text
  | json
  | yaml
deriving DecidableEq, Inhabited

/-- How output is written. -/
structure Options where
  format : Format
  /-- Use colours, in text. -/
  coloured : Bool
  /-- Give the rationale of each rule. -/
  verbose : Bool
deriving DecidableEq, Inhabited

/-- Cuts a text into lines, with the characters of the line in progress in reverse on `line` and the
    finished lines in reverse on `out`. A carriage return before the newline is no part of a line,
    and nothing behind the last newline is no line. -/
def linesFrom (line : List Char) (out : List String) : List Char → List String
  | [] => if line.isEmpty then out.reverse else (String.ofList line.reverse :: out).reverse
  | '\n' :: s =>
    let line := match line with
      | '\r' :: line => line
      | line => line
    linesFrom [] (String.ofList line.reverse :: out) s
  | c :: s => linesFrom (c :: line) out s

/-- The lines of a text. -/
def lines (s : String) : List String := linesFrom [] [] s.toList

/-- The lines of a text, each indented and ended. -/
def indented (indent : Nat) (s : String) : String :=
  String.join ((lines s).map fun line => blanks indent ++ line ++ "\n")

/-- A severity, a title and a category, as in every text output. -/
def headline (o : Options) (severity : Severity) (title : String) (category : Category) : String :=
  (Colour.ofSeverity severity).paintIf o.coloured ("[" ++ severity.label ++ "]") ++ " " ++ title ++
    " (" ++ category.name ++ ")"

/-! ## Reports -/

/-- A diagnostic in text. -/
def diagnosticText (o : Options) (d : Diagnostic) : String :=
  "  " ++ headline o d.severity d.title d.category ++ "\n" ++
    if o.verbose then indented 6 d.message else ""

/-- A finding in text. -/
def findingText (o : Options) (f : Finding) : String :=
  Colour.location.paintIf o.coloured (f.statement.source ++ ":" ++ toString f.statement.line) ++
    "\n  " ++ f.statement.text ++ "\n" ++ String.join (f.diagnostics.map (diagnosticText o)) ++ "\n"

/-- The last line of a report in text. -/
def summaryText (r : Report) : String :=
  let scope := toString r.statementCount ++ " statements (" ++ toString r.ruleCount ++ " rules)\n"
  if r.findings.isEmpty then "No anti-patterns found in " ++ scope
  else
    "Summary: " ++ toString (r.count .error) ++ " errors, " ++ toString (r.count .warning) ++
      " warnings, " ++ toString (r.count .info) ++ " info in " ++ scope

/-- A report in text. -/
def reportText (o : Options) (r : Report) : String :=
  Colour.header.paintIf o.coloured "=== SQL Anti-Pattern Analysis ===" ++ "\n\n" ++
    String.join (r.findings.map (findingText o)) ++ summaryText r

/-- A diagnostic as structured output. -/
def diagnosticDocument (d : Diagnostic) : Document :=
  .record [("title", .text d.title), ("severity", .text d.severity.name),
    ("category", .text d.category.name), ("message", .text d.message),
    ("statement", .text d.statement)]

/-- A finding as structured output. -/
def findingDocument (f : Finding) : Document :=
  .record [("source", .text f.statement.source), ("line", .number f.statement.line),
    ("statement", .text f.statement.text),
    ("diagnostics", .list (f.diagnostics.map diagnosticDocument))]

/-- A report as structured output. -/
def reportDocument (r : Report) : Document :=
  .record [("findings", .list (r.findings.map findingDocument)),
    ("statements_count", .number r.statementCount), ("rules_count", .number r.ruleCount)]

/-- A report. -/
def report (o : Options) (r : Report) : String :=
  match o.format with
  | .text => reportText o r
  | .json => (reportDocument r).json 0
  | .yaml => (reportDocument r).toYaml

/-! ## Rule lists -/

/-- A rule as it is listed. -/
structure Summary where
  info : RuleInfo
  /-- The severity with which it reports. -/
  severity : Severity
  enabled : Bool

/-- The rules of a registry as they are listed under a choice of rules. -/
def summaries (g : Registry) (selection : Selection) : List Summary :=
  g.rules.map fun r =>
    ⟨r.info, Registry.effectiveSeverity selection r, selection.isEnabled r.title⟩

/-- A listed rule in text. -/
def summaryLine (o : Options) (s : Summary) : String :=
  headline o s.severity s.info.title s.info.category ++ (if s.enabled then "" else " (disabled)") ++
    "\n" ++ if o.verbose then indented 4 s.info.message ++ "\n" else ""

/-- A listed rule as structured output. -/
def summaryDocument (o : Options) (s : Summary) : Document :=
  .record ([("title", .text s.info.title), ("severity", .text s.severity.name),
    ("category", .text s.info.category.name), ("enabled", .flag s.enabled)] ++
    if o.verbose then [("message", .text s.info.message)] else [])

/-- The rules of a registry, those that do not run marked. -/
def rules (o : Options) (g : Registry) (selection : Selection) : String :=
  let listed := summaries g selection
  match o.format with
  | .text => String.join (listed.map (summaryLine o))
  | .json => (Document.list (listed.map (summaryDocument o))).json 0
  | .yaml => (Document.list (listed.map (summaryDocument o))).toYaml

end SqlSmell.Render

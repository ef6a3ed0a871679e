import SqlSmell.Command.Arguments
import SqlSmell.Files
import SqlSmell.Rule.Baseline
import SqlSmell.Rule.Validation
import SqlSmell.Script.Statements

/- The two commands. `check` analyses scripts with the built-in rules, and `rules` lists them. The
   settings are validated before anything is read, so a bad title fails without partial output. -/
namespace SqlSmell.Command

/-- How output is written: what is asked for adds to what is set. -/
def outputOptions (format : Render.Format) (verbose noColor : Bool) (o : OutputSettings) :
    Render.Options :=
  ⟨format, !noColor && o.color, verbose || o.verbose⟩

/-- The outcome of a check. -/
structure CheckOutcome where
  exitCode : Nat
  output : String
  /-- What is shown, without what is hidden by its severity. -/
  report : Report

/-- The name of an input in reports and errors. -/
def sourceName (path : String) : String := if path == "-" then "stdin" else path

/-- The text of an input. -/
def readInput (files : Files) (stdin : ByteArray) (path : String) : Except Error String :=
  if path == "-" then
    match String.fromUTF8? stdin with
    | some text => .ok text
    | none => .error (.unreadableInput "stdin" .notUtf8)
  else
    match files.readText path with
    | .ok text => .ok text
    | .error cause => .error (.unreadableInput path cause)

/-- What is left on standard input once the input has been read. -/
def stdinAfter (path : String) (stdin : ByteArray) : ByteArray :=
  if path == "-" then .empty else stdin

/-- The statements of all inputs, in order. -/
def loadInputs (files : Files) (delimiter : Char) (limit : Nat) :
    (stdin : ByteArray) → (paths : List String) → Except Error (List Statement)
  | _, [] => .ok []
  | stdin, path :: paths => do
    let script ← readInput files stdin path
    let first ← Script.load (sourceName path) delimiter limit script
    let others ← loadInputs files delimiter limit (stdinAfter path stdin) paths
    return first ++ others

/-- The least severity that is shown: as asked for, or else as set. -/
def leastSeverity (request : CheckRequest) (settings : Settings) : Except Error (Option Severity) :=
  match request.minSeverity with
  | some s => .ok (some s)
  | none => settings.output.leastSeverity

/-- The inputs of a request; without any, standard input. -/
def CheckRequest.inputs (request : CheckRequest) : List String :=
  if request.files.isEmpty then ["-"] else request.files

/-- Analyses the inputs of a request. -/
def check (files : Files) (stdin : ByteArray) (request : CheckRequest) (settings : Settings) :
    Except Error CheckOutcome := do
  let registry ← Registry.baseline
  let selection := settings.rules.disable request.disable
  selection.validate registry
  let least ← leastSeverity request settings
  let statements ← loadInputs files request.delimiter settings.output.maxStatementLength stdin
    request.inputs
  let report := registry.analyze selection statements
  let report := match least with
    | some s => report.atLeast s
    | none => report
  let options := outputOptions request.format request.verbose request.noColor settings.output
  return ⟨report.exitCode, Render.report options report, report⟩

/-- Lists the built-in rules. -/
def listRules (request : RulesRequest) (settings : Settings) : Except Error String := do
  let registry ← Registry.baseline
  settings.rules.validate registry
  let options := outputOptions request.format request.verbose request.noColor settings.output
  return Render.rules options registry settings.rules

end SqlSmell.Command

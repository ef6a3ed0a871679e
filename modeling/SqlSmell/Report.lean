import SqlSmell.Rule.Registry
import SqlSmell.Statement

/- The outcome of an analysis: for each statement with diagnostics, a finding, in input order. -/
namespace SqlSmell

/-- The diagnostics of one statement. -/
structure Finding where
  statement : Statement
  /-- In order of registration of their rules. -/
  diagnostics : List Diagnostic
deriving DecidableEq, Inhabited

/-- The findings of an analysis. -/
structure Report where
  findings : List Finding
  /-- The number of statements analysed, with and without findings. -/
  statementCount : Nat
  /-- The number of rules that ran. -/
  ruleCount : Nat
deriving DecidableEq, Inhabited

namespace Report

/-- No findings. -/
def empty (statementCount ruleCount : Nat) : Report := ⟨[], statementCount, ruleCount⟩

/-- Adds a finding, unless it has no diagnostics. -/
def add (r : Report) (f : Finding) : Report :=
  if f.diagnostics.isEmpty then r else { r with findings := r.findings ++ [f] }

/-- All diagnostics, in input order. -/
def diagnostics (r : Report) : List Diagnostic := r.findings.flatMap Finding.diagnostics

/-- The number of diagnostics of one severity. -/
def count (r : Report) (s : Severity) : Nat := r.diagnostics.countP (fun d => d.severity == s)

/-- The gravest severity of a diagnostic. -/
def highest (r : Report) : Option Severity :=
  match r.diagnostics with
  | [] => none
  | d :: more => some (more.foldl (fun s d => s.max d.severity) d.severity)

/-- Without the diagnostics below a severity, and without the findings that this leaves empty. -/
def atLeast (r : Report) (least : Severity) : Report :=
  let kept := r.findings.map fun f =>
    { f with diagnostics := f.diagnostics.filter fun d => least ≤ d.severity }
  { r with findings := kept.filter fun f => !f.diagnostics.isEmpty }

/-- The code with which a run ends: 2 with an error, 1 with a warning at most, else 0. -/
def exitCode (r : Report) : Nat :=
  match r.highest with
  | some .error => 2
  | some .warning => 1
  | _ => 0

end Report

/-- What the rules that run find in a statement. -/
def Registry.finding (g : Registry) (selection : Selection) (s : Statement) : Finding :=
  ⟨s, g.evaluate selection s.text⟩

/-- Analyses statements with the rules that run, and adds up what they find. -/
def Registry.analyze (g : Registry) (selection : Selection) (statements : List Statement) : Report :=
  (statements.map (g.finding selection)).foldl Report.add
    (.empty statements.length (g.enabledCount selection))

end SqlSmell

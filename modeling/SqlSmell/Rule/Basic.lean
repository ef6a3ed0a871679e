import SqlSmell.Error
import SqlSmell.Pattern.Matcher
import SqlSmell.Rule.Severity
import SqlSmell.Statement

/- Rules and the diagnostics they give. A rule describes an anti-pattern and knows how to detect it
   in the text of one statement. -/
namespace SqlSmell

/-- A condition on a statement that comes before a rule's pattern. -/
inductive Gate
  | always
  /-- Table definitions only. -/
  | creation
deriving DecidableEq, Inhabited

/-- Does the gate let the statement through? -/
def Gate.admits : Gate → String → Bool
  | always, _ => true
  | creation, sql => Creation.isCreation sql

/-- The gate as it is shown when a rule is inspected. -/
def Gate.inspect : Gate → String
  | always => "Always"
  | creation => "CreationStatement"

/-- How a rule decides on a statement. -/
inductive Detection
  /-- By a pattern, if the gate lets the statement through. -/
  | pattern (gate : Gate) (matcher : Matcher)
  /-- By a pattern directly before the name of the table that the statement defines. -/
  | tableScoped (anchor : Matcher)
  /-- By a test of its own. -/
  | custom (test : String → Bool)

namespace Detection

/-- Does the statement violate the rule? -/
def detects : Detection → String → Bool
  | pattern gate matcher, sql => gate.admits sql && matcher.isViolation sql
  | tableScoped anchor, sql =>
    let table := Creation.tableName sql
    !table.isEmpty && anchor.isViolationBefore sql table
  | custom test, sql => test sql

/-- The detection as it is shown when a rule is inspected. -/
def inspect : Detection → String
  | pattern gate matcher =>
    "Pattern \x7b gate: " ++ gate.inspect ++ ", matcher: " ++ matcher.inspect ++ " \x7d"
  | tableScoped anchor => "TableScoped \x7b anchor: " ++ anchor.inspect ++ " \x7d"
  | custom _ => "Custom"

end Detection

/-- What is said about a rule. -/
structure RuleInfo where
  /-- Names the rule in configuration, in any ASCII case. -/
  title : String
  /-- Why the construct is harmful. -/
  message : String
  /-- The severity unless the configuration overrides it. -/
  severity : Severity
  category : Category
deriving DecidableEq, Inhabited

/-- An anti-pattern and its detection. -/
structure Rule where
  info : RuleInfo
  detection : Detection

/-- An anti-pattern found in a statement. -/
structure Diagnostic where
  title : String
  severity : Severity
  category : Category
  message : String
  /-- The text of the statement. -/
  statement : String
deriving DecidableEq, Inhabited

namespace Rule

/-- A rule around a pattern. -/
def ofPattern (info : RuleInfo) (gate : Gate) (pattern : String) (policy : Policy) :
    Except Error Rule :=
  match Matcher.ofPattern pattern policy with
  | .ok matcher => .ok ⟨info, .pattern gate matcher⟩
  | .error _ => .error (.invalidPattern info.title pattern)

/-- A rule around a pattern that is to stand before the name of the table being defined. -/
def ofTablePattern (info : RuleInfo) (anchor : String) (policy : Policy) : Except Error Rule :=
  match Matcher.ofPattern anchor policy with
  | .ok matcher => .ok ⟨info, .tableScoped matcher⟩
  | .error _ => .error (.invalidPattern info.title anchor)

/-- The rule's title. -/
def title (r : Rule) : String := r.info.title

/-- The diagnostic of the rule on a statement, with the given severity. -/
def check (r : Rule) (sql : String) (severity : Severity) : Option Diagnostic :=
  if r.detection.detects sql then
    some ⟨r.info.title, severity, r.info.category, r.info.message, sql⟩
  else none

end Rule

end SqlSmell

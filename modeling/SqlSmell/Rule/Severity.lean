import SqlSmell.Text.Case

/- How grave a finding is, and which kind of statement a rule is about. -/
namespace SqlSmell

/-- The severity of a diagnostic, from least to most grave. -/
inductive Severity
  | info
  | warning
  | error
deriving DecidableEq, Inhabited

namespace Severity

/-- The place in the order of gravity. -/
def rank : Severity → Nat
  | info => 0
  | warning => 1
  | error => 2

instance : LE Severity := ⟨fun a b => a.rank ≤ b.rank⟩

instance (a b : Severity) : Decidable (a ≤ b) := inferInstanceAs (Decidable (a.rank ≤ b.rank))

/-- The graver of two. -/
def max (a b : Severity) : Severity := if a ≤ b then b else a

/-- The label in reports. -/
def label : Severity → String
  | info => "INFO"
  | warning => "WARN"
  | error => "ERROR"

/-- The name in structured output. -/
def name : Severity → String
  | info => "info"
  | warning => "warning"
  | error => "error"

/-- Reads a severity in any case. A text that is none is given back in small letters. -/
def ofText (text : String) : Except String Severity :=
  match String.ofList (Text.lower text.toList) with
  | "error" => .ok error
  | "warning" => .ok warning
  | "warn" => .ok warning
  | "info" => .ok info
  | other => .error other

end Severity

/-- The kind of statement a rule is written for. -/
inductive Category
  | query
  | creation
deriving DecidableEq, Inhabited

/-- The name in all output. -/
def Category.name : Category → String
  | query => "Query"
  | creation => "Creation"

end SqlSmell

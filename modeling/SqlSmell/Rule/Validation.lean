import SqlSmell.Rule.Registry

/- Checking a choice of rules against a registry, before anything is evaluated: every title must
   name a rule, no rule may have two severities, and every severity must be one. -/
namespace SqlSmell.Selection

/-- The titles that occur in the choice: enabled, disabled, then those with a severity. -/
def titles (s : Selection) : List String := s.enabled ++ s.disabled ++ s.severity.map Prod.fst

/-- The first text that is followed by its like. -/
def firstTwin? : List String → Option String
  | s :: t :: more => if s == t then some s else firstTwin? (t :: more)
  | _ => none

/-- The least text that occurs more than once, which sorting puts next to its like. -/
def leastRepeated? (texts : List String) : Option String := firstTwin? (texts.mergeSort (· ≤ ·))

/-- The title, in small letters, of a rule with more than one severity. -/
def repeatedOverride? (s : Selection) : Option String :=
  leastRepeated? (s.severity.map fun entry => Text.asciiLower entry.1)

/-- The first severity that is none, with its title. -/
def badOverride? : (severity : List (String × String)) → Option (String × String)
  | [] => none
  | (title, text) :: more =>
    match Severity.ofText text with
    | .ok _ => badOverride? more
    | .error shown => some (title, shown)

/-- Refuses a choice that does not fit the registry. -/
def validate (s : Selection) (g : Registry) : Except Error Unit :=
  match s.titles.find? (fun t => !g.contains t) with
  | some title => .error (.unknownRule title g.titles)
  | none =>
    match s.repeatedOverride? with
    | some title => .error (.repeatedOverride (((g.get? title).map Rule.title).getD title))
    | none =>
      match badOverride? s.severity with
      | some (title, shown) => .error (.badOverride title shown)
      | none => .ok ()

end SqlSmell.Selection

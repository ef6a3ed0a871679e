import SqlSmell.Rule.Basic

/- Which rules run, and with which severity. Rules are named by title, in any ASCII case. -/
namespace SqlSmell

/-- A choice of rules. -/
structure Selection where
  /-- The rules to run; all, if it is empty. -/
  enabled : List String
  /-- The rules not to run, even if they are listed to run. -/
  disabled : List String
  /-- Severities by title, in place of the rules' own. -/
  severity : List (String × String)
deriving DecidableEq, Inhabited

namespace Selection

/-- Every rule, with its own severity. -/
def all : Selection := ⟨[], [], []⟩

/-- Is the title in the list? -/
def lists (titles : List String) (title : String) : Bool := titles.any (Text.sameTitle · title)

/-- Does the rule of this title run? -/
def isEnabled (s : Selection) (title : String) : Bool :=
  (s.enabled.isEmpty || lists s.enabled title) && !lists s.disabled title

/-- The severity that replaces the rule's own, if one is given and well formed. -/
def severityOverride (s : Selection) (title : String) : Option Severity :=
  match s.severity.find? (fun entry => Text.sameTitle entry.1 title) with
  | none => none
  | some (_, text) => (Severity.ofText text).toOption

/-- The same choice without some more rules. -/
def disable (s : Selection) (titles : List String) : Selection :=
  { s with disabled := s.disabled ++ titles }

end Selection

end SqlSmell

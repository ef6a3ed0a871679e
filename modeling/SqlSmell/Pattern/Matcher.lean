import SqlSmell.Pattern.Reader
import SqlSmell.Text.Basic
import SqlSmell.Text.Quoted

/- A pattern together with what its presence means. Some rules look for a construct that should not
   be there, others for one that should. -/
namespace SqlSmell

open Pattern (PatternError)

/-- When the outcome of a search is a violation. -/
inductive Policy
  /-- Finding the pattern is. -/
  | onMatch
  /-- Not finding it is. -/
  | onAbsence
deriving DecidableEq, Inhabited

/-- Is the outcome of a search a violation? -/
def Policy.violated : Policy → (found : Bool) → Bool
  | onMatch, found => found
  | onAbsence, found => !found

/-- The policy as it is shown when a rule is inspected. -/
def Policy.inspect : Policy → String
  | onMatch => "MatchMeansViolation"
  | onAbsence => "AbsenceMeansViolation"

/-- A compiled pattern and its policy. -/
structure Matcher where
  /-- The pattern as it was written. -/
  pattern : String
  policy : Policy
  program : Pattern.Program
deriving Inhabited

namespace Matcher

/-- Compiles a pattern. -/
def ofPattern (pattern : String) (policy : Policy) : Except PatternError Matcher := do
  let program ← Pattern.compile pattern.toList
  return ⟨pattern, policy, program⟩

/-- Compiles a pattern around a literal text, which matches itself alone. -/
def ofLiteral (before literal behind : String) (policy : Policy) : Except PatternError Matcher :=
  ofPattern (before ++ String.ofList (Pattern.escape literal.toList) ++ behind) policy

/-- Does the pattern match anywhere in the statement? -/
def isFound (m : Matcher) (sql : String) : Bool := m.program.isFound sql.toList

/-- Does the search violate the policy? -/
def isViolation (m : Matcher) (sql : String) : Bool := m.policy.violated (m.isFound sql)

/-- Can the character follow a whole token? -/
def endsToken (c : Char) : Bool :=
  Text.isBlank c || c == '(' || c == ')' || c == ',' || c == ';'

/-- Does the text start with the token, as a whole? -/
def startsWithToken (token text : List Char) : Bool :=
  match Text.afterStart? token text with
  | none => false
  | some [] => true
  | some (c :: _) => endsToken c

/-- Does the token stand directly behind one of the successive matches? It is compared as plain
    text, so that it may have any length and hold any character. -/
def isFoundBefore (m : Matcher) (sql token : String) : Bool :=
  m.program.isFoundWith (startsWithToken token.toList) sql.toList

/-- Does the search for a match before the token violate the policy? -/
def isViolationBefore (m : Matcher) (sql token : String) : Bool :=
  m.policy.violated (m.isFoundBefore sql token)

/-- The matcher as it is shown when a rule is inspected. -/
def inspect (m : Matcher) : String :=
  "PatternMatcher \x7b pattern: " ++ Text.quoted m.pattern ++ ", policy: " ++ m.policy.inspect ++
    " \x7d"

end Matcher

end SqlSmell

import SqlSmell.Pattern.CharSet

/- Patterns as trees. `Regex.size` is the number of instructions a pattern compiles to; it is
   computed without unfolding counted repetitions, so that an oversized pattern is refused before
   it is built. -/
namespace SqlSmell.Pattern

/-- A condition on a position in a text, which consumes nothing. It looks at the characters on the two
    sides of the position. -/
inductive Anchor
  | textStart
  | textEnd
  /-- A character of the set stands before the position. -/
  | before (s : CharSet)
  /-- A character of the set stands behind the position. -/
  | behind (s : CharSet)
  | not (a : Anchor)
  | both (a b : Anchor)
deriving DecidableEq, Inhabited

/-- The two characters around a position; `none` at the ends of the text. -/
structure Around where
  before : Option Char
  behind : Option Char

namespace Anchor

/-- Does the condition hold at a position? -/
def holds : Anchor → Around → Bool
  | textStart, p => p.before.isNone
  | textEnd, p => p.behind.isNone
  | before s, p => p.before.any s.contains
  | behind s, p => p.behind.any s.contains
  | not a, p => !a.holds p
  | both a b, p => a.holds p && b.holds p

/-- A word starts at the position. -/
def wordStart : Anchor := both (not (before .word)) (behind .word)

/-- A word ends at the position. -/
def wordEnd : Anchor := both (before .word) (not (behind .word))

/-- The position is inside or outside all words. -/
def insideOrOutsideWord : Anchor := both (not wordStart) (not wordEnd)

/-- A word starts or ends at the position. -/
def wordBoundary : Anchor := not insideOrOutsideWord

end Anchor

/-- A pattern. Where it can match in several ways, the first branch of an alternation is preferred
    to the second, a greedy repetition prefers another round and a lazy one prefers to stop. -/
inductive Regex
  /-- The empty text. -/
  | empty
  /-- One character of a set. -/
  | set (s : CharSet)
  /-- The empty text at a position where the condition holds. -/
  | anchor (a : Anchor)
  | cat (r s : Regex)
  | alt (r s : Regex)
  /-- Exactly `count` times. -/
  | times (r : Regex) (count : Nat)
  /-- At most `count` times. -/
  | upTo (r : Regex) (count : Nat) (greedy : Bool)
  /-- Any number of times. -/
  | star (r : Regex) (greedy : Bool)
  /-- At least once. -/
  | plus (r : Regex) (greedy : Bool)
deriving DecidableEq, Inhabited

namespace Regex

/-- Does every match take at least one character, whatever the text? -/
def consumes : Regex → Bool
  | empty => false
  | set _ => true
  | anchor _ => false
  | cat r s => r.consumes || s.consumes
  | alt r s => r.consumes && s.consumes
  | times r count => 0 < count && r.consumes
  | upTo _ _ _ => false
  | star _ _ => false
  | plus r _ => r.consumes

/-- The number of instructions that the pattern compiles to. -/
def size : Regex → Nat
  | empty => 1
  | set _ => 1
  | anchor _ => 1
  | cat r s => r.size + s.size
  | alt r s => r.size + s.size + 1
  | times r count => count * r.size + 1
  | upTo r count _ => count * (r.size + 1) + 1
  | star r _ => if r.consumes then r.size + 1 else r.size + 2
  | plus r _ => r.size + 1

/-- Between `min` and `max` times, or at least `min` times without a `max`. -/
def counted (r : Regex) (min : Nat) (max : Option Nat) (greedy : Bool) : Regex :=
  match min, max with
  | 0, some max => upTo r max greedy
  | min, some max => if max ≤ min then times r min else cat (times r min) (upTo r (max - min) greedy)
  | 0, none => star r greedy
  | 1, none => plus r greedy
  | min + 2, none => cat (times r (min + 1)) (plus r greedy)

/-- The concatenation of a list given in reverse. -/
def ofReversedItems : List Regex → Regex
  | [] => empty
  | last :: items => items.foldl (fun tail r => cat r tail) last

/-- The alternation of a list given in reverse, which has a last branch. -/
def ofReversedBranches (last : Regex) (branches : List Regex) : Regex :=
  branches.foldl (fun tail r => alt r tail) last

end Regex

end SqlSmell.Pattern

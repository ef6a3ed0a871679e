import SqlSmell.Pattern.Token
import SqlSmell.Pattern.Program

/- From tokens to a pattern. The tokens build branches of items; a group mark opens or closes an
   alternation of its own, and a quantifier takes the item before it. -/
namespace SqlSmell.Pattern

/-- An alternation in progress. -/
structure Branches where
  /-- The finished branches, last one first. -/
  finished : List Regex
  /-- The items of the branch in progress, last one first. -/
  items : List Regex

namespace Branches

/-- Nothing read yet. -/
def empty : Branches := ⟨[], []⟩

/-- Adds an item to the branch in progress. -/
def add (b : Branches) (r : Regex) : Branches := { b with items := r :: b.items }

/-- The whole alternation. -/
def close (b : Branches) : Regex := .ofReversedBranches (.ofReversedItems b.items) b.finished

end Branches

/-- The state between two tokens. -/
structure Assembly where
  /-- The alternation in progress. -/
  inner : Branches
  /-- Those of the groups around it, innermost first. -/
  outer : List Branches
  /-- The group names met so far. -/
  names : List (List Char)

/-- The state before the first token. -/
def Assembly.start : Assembly := ⟨.empty, [], []⟩

/-- Takes one token. -/
def Assembly.take (a : Assembly) : Token → Except PatternError Assembly
  | .set s => .ok { a with inner := a.inner.add (.set s) }
  | .anchor c => .ok { a with inner := a.inner.add (.anchor c) }
  | .openGroup none => .ok { a with inner := .empty, outer := a.inner :: a.outer }
  | .openGroup (some name) =>
    if a.names.contains name then .error .malformed
    else .ok ⟨.empty, a.inner :: a.outer, name :: a.names⟩
  | .closeGroup =>
    match a.outer with
    | [] => .error .malformed
    | around :: outer => .ok { a with inner := around.add a.inner.close, outer := outer }
  | .bar =>
    .ok { a with inner := ⟨.ofReversedItems a.inner.items :: a.inner.finished, []⟩ }
  | .quantifier min max greedy =>
    match a.inner.items with
    | [] => .error .malformed
    | r :: items => .ok { a with inner := { a.inner with items := r.counted min max greedy :: items } }

/-- The pattern, once all groups are closed. -/
def Assembly.close (a : Assembly) : Except PatternError Regex :=
  match a.outer with
  | [] => .ok a.inner.close
  | _ :: _ => .error .malformed

/-- Reads a pattern. -/
def Regex.parse (pattern : List Char) : Except PatternError Regex := do
  let assembly ← (← tokens pattern).foldlM Assembly.take .start
  assembly.close

/-- The greatest number of instructions that a pattern may compile to. -/
def sizeLimit : Nat := 327680

/-- Reads and compiles a pattern. -/
def compile (pattern : List Char) : Except PatternError Program := do
  let r ← Regex.parse pattern
  if r.size ≤ sizeLimit then .ok r.program else .error .tooLarge

/-- The characters that mean something in a pattern. -/
def isMeta (c : Char) : Bool := "\\.+*?()|[]\x7b\x7d^$#&-~".toList.contains c

/-- The pattern that matches exactly the given text. -/
def escape (literal : List Char) : List Char :=
  literal.flatMap fun c => if isMeta c then ['\\', c] else [c]

end SqlSmell.Pattern

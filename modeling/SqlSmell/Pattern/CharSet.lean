import SqlSmell.Text.Basic
import SqlSmell.Text.Word

/- The sets of characters that one step of a pattern accepts. -/
namespace SqlSmell.Pattern

/-- A set of characters. -/
inductive CharSet
  /-- The characters from `first` to `last`, both included. -/
  | range (first last : Char)
  /-- White space. -/
  | blank
  /-- Decimal digits. -/
  | decimal
  /-- Letters, digits, marks and connectors. -/
  | word
  /-- No character. -/
  | none
  | union (s t : CharSet)
  | not (s : CharSet)
deriving DecidableEq, Inhabited

namespace CharSet

/-- Is the character in the set? -/
def contains : CharSet → Char → Bool
  | range first last, c => first ≤ c && c ≤ last
  | blank, c => Text.isBlank c
  | decimal, c => Text.isDecimal c
  | word, c => Text.isWord c
  | none, _ => false
  | union s t, c => s.contains c || t.contains c
  | not s, c => !s.contains c

/-- A single character. -/
def one (c : Char) : CharSet := range c c

/-- The characters of some ranges. -/
def ofRanges (ranges : List (Char × Char)) : CharSet :=
  ranges.foldl (fun s ends => union s (range ends.1 ends.2)) none

/-- Every character but the newline. -/
def dot : CharSet := not (one '\n')

end CharSet

end SqlSmell.Pattern

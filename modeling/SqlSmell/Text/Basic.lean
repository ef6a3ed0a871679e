/- Texts as lists of characters: plain search for a substring, the one notion of a blank that statements,
   configuration lists and patterns share, sets of characters given as ranges of code points with binary
   search in them, of which the tables of character properties are made, and numbers written in
   digits. -/
namespace SqlSmell.Text

/-! ## Searching -/

/-- The text behind `needle`, if `s` starts with it. -/
def afterStart? : (needle s : List Char) → Option (List Char)
  | [], s => some s
  | _ :: _, [] => none
  | n :: needle, c :: s => if n == c then afterStart? needle s else none

/-- The text behind the first occurrence of `needle`. -/
def after? (needle : List Char) : List Char → Option (List Char)
  | [] => afterStart? needle []
  | c :: s =>
    match afterStart? needle (c :: s) with
    | some rest => some rest
    | none => after? needle s

/-- Does `needle` occur in the text? -/
def occurs (needle s : List Char) : Bool := (after? needle s).isSome

/-! ## Blanks -/

/-- White space in any script: tab to carriage return, space, next line, no-break space, the
    typographic spaces and the line and paragraph separators. -/
def isBlank (c : Char) : Bool :=
  let n := c.toNat
  if n < 128 then n == 0x20 || (0x09 ≤ n && n ≤ 0x0D)
  else n == 0x85 || n == 0xA0 || n == 0x1680 || (0x2000 ≤ n && n ≤ 0x200A)
    || n == 0x2028 || n == 0x2029 || n == 0x202F || n == 0x205F || n == 0x3000

/-- Without leading blanks. -/
def trimStart (s : List Char) : List Char := s.dropWhile isBlank

/-- Without trailing blanks. -/
def trimEnd (s : List Char) : List Char := (s.reverse.dropWhile isBlank).reverse

/-- Without leading and trailing blanks. -/
def trim (s : List Char) : List Char := trimEnd (trimStart s)

/-! ## Ranges of characters -/

/-- Inclusive ranges of code points, in increasing order. -/
abbrev Ranges := Array (Nat × Nat)

namespace Ranges

/-- Binary search for `n` among the ranges with indices from `lo` up to, not including, `hi`. -/
def search (t : Ranges) (n : Nat) : (fuel lo hi : Nat) → Bool
  | 0, _, _ => false
  | fuel + 1, lo, hi =>
    if lo < hi then
      let mid := (lo + hi) / 2
      match t[mid]? with
      | none => false
      | some (first, last) =>
        if n < first then search t n fuel lo mid
        else if last < n then search t n fuel (mid + 1) hi
        else true
    else false

/-- Is `n` in one of the ranges? Every probe halves the interval, so `t.size` rounds are enough. -/
def contains (t : Ranges) (n : Nat) : Bool :=
  search t n t.size 0 t.size

end Ranges

/-! ## Numerals -/

/-- The value of a digit in the given base. -/
def digitValue? (base : Nat) (c : Char) : Option Nat :=
  let n :=
    if c.isDigit then c.toNat - '0'.toNat
    else if 'a' ≤ c && c ≤ 'f' then c.toNat - 'a'.toNat + 10
    else if 'A' ≤ c && c ≤ 'F' then c.toNat - 'A'.toNat + 10
    else base
  if n < base then some n else none

/-- The number written in digits of the given base, if there are digits and nothing else. -/
def digitsValue? (base : Nat) : List Char → Option Nat
  | [] => none
  | s => (s.mapM (digitValue? base)).map fun ds => ds.foldl (fun n d => base * n + d) 0

/-- The least number, a power of two less half a unit in the last place, that is too great for a
    float of 64 bits. -/
def floatOverflow : Nat := Nat.pow 2 1024 - Nat.pow 2 970

/-- Is `digits * 10 ^ exponent` small enough for a float of 64 bits? -/
def fitsFloat (digits : List Char) (exponent : Int) : Bool :=
  let significant := digits.dropWhile (· == '0')
  let places : Int := significant.length + exponent
  if significant.isEmpty || places ≤ 308 then true
  else if 309 < places then false
  else match digitsValue? 10 significant with
    | none => false
    | some n =>
      if 0 ≤ exponent then n * Nat.pow 10 exponent.toNat < floatOverflow
      else n < floatOverflow * Nat.pow 10 (-exponent).toNat

end SqlSmell.Text

import SqlSmell.Text.Basic

/- The four kinds of strings of a TOML document. A reader takes the text behind the opening quotes
   and gives the string and what follows it, or nothing if the string is not well formed. -/
namespace SqlSmell.Toml

/-- Controls other than the tab are never written as they are. -/
def isControl (c : Char) : Bool := (c.toNat < 0x20 && c != '\t') || c.toNat == 0x7F

/-- Space and tab. -/
def isSpace (c : Char) : Bool := c == ' ' || c == '\t'

/-- The text behind a line end, if there is one here. -/
def lineEnd? : List Char → Option (List Char)
  | '\n' :: s => some s
  | '\r' :: '\n' :: s => some s
  | _ => none

/-- The character of a code point. -/
def codePoint? (n : Nat) : Option Char :=
  if (Char.ofNat n).toNat == n then some (Char.ofNat n) else none

/-- The character written by a number of hexadecimal digits, and the rest. -/
def readCode (digits : Nat) (s : List Char) : Option (Char × List Char) := do
  if s.length < digits then none
  let n ← Text.digitsValue? 16 (s.take digits)
  return (← codePoint? n, s.drop digits)

/-- The character of an escape, behind its backslash. -/
def readEscape : List Char → Option (Char × List Char)
  | 'b' :: s => some ('\x08', s)
  | 't' :: s => some ('\t', s)
  | 'n' :: s => some ('\n', s)
  | 'f' :: s => some ('\x0c', s)
  | 'r' :: s => some ('\r', s)
  | 'e' :: s => some ('\x1b', s)
  | '\x22' :: s => some ('\x22', s)
  | '\\' :: s => some ('\\', s)
  | 'x' :: s => readCode 2 s
  | 'u' :: s => readCode 4 s
  | 'U' :: s => readCode 8 s
  | _ => none

/-! In the following readers `out` is the string so far in reverse, and the fuel is the length of
the text, of which every round takes a character. -/

/-- A string in double quotes, on one line. -/
def readBasic : (fuel : Nat) → (out : List Char) → List Char → Option (String × List Char)
  | 0, _, _ => none
  | _ + 1, _, [] => none
  | _ + 1, out, '\x22' :: s => some (String.ofList out.reverse, s)
  | fuel + 1, out, '\\' :: s => do
    let (c, s) ← readEscape s
    readBasic fuel (c :: out) s
  | fuel + 1, out, c :: s => if isControl c then none else readBasic fuel (c :: out) s

/-- A string in single quotes, on one line. -/
def readLiteral : (out : List Char) → List Char → Option (String × List Char)
  | _, [] => none
  | out, '\x27' :: s => some (String.ofList out.reverse, s)
  | out, c :: s => if isControl c then none else readLiteral (c :: out) s

/-- The text behind the blanks, tabs and line ends. -/
def skipSpaceAndLines : List Char → List Char
  | '\r' :: '\n' :: s => skipSpaceAndLines s
  | c :: s => if isSpace c || c == '\n' then skipSpaceAndLines s else c :: s
  | [] => []

/-- The closing quotes of a string over several lines. Up to two more of them stand before the
    closing ones and belong to the string. -/
def closing? (quote : Char) (out : List Char) (s : List Char) : Option (String × List Char) :=
  let run := s.takeWhile (· == quote)
  let count := run.length
  if count < 3 || 5 < count then none
  else some (String.ofList (List.replicate (count - 3) quote ++ out).reverse, s.drop count)

/-- A string in three double quotes. A backslash at the end of a line joins it to what follows. -/
def readLongBasic : (fuel : Nat) → (out : List Char) → List Char → Option (String × List Char)
  | 0, _, _ => none
  | _ + 1, _, [] => none
  | fuel + 1, out, '\x22' :: s =>
    match s with
    | '\x22' :: '\x22' :: _ => closing? '\x22' out ('\x22' :: s)
    | _ => readLongBasic fuel ('\x22' :: out) s
  | fuel + 1, out, '\\' :: s =>
    match lineEnd? (s.dropWhile isSpace) with
    | some rest => readLongBasic fuel out (skipSpaceAndLines rest)
    | none => do
      let (c, s) ← readEscape s
      readLongBasic fuel (c :: out) s
  | fuel + 1, out, '\r' :: '\n' :: s => readLongBasic fuel ('\n' :: '\r' :: out) s
  | fuel + 1, out, c :: s =>
    if isControl c && c != '\n' then none else readLongBasic fuel (c :: out) s

/-- A string in three single quotes. -/
def readLongLiteral : (fuel : Nat) → (out : List Char) → List Char → Option (String × List Char)
  | 0, _, _ => none
  | _ + 1, _, [] => none
  | fuel + 1, out, '\x27' :: s =>
    match s with
    | '\x27' :: '\x27' :: _ => closing? '\x27' out ('\x27' :: s)
    | _ => readLongLiteral fuel ('\x27' :: out) s
  | fuel + 1, out, '\r' :: '\n' :: s => readLongLiteral fuel ('\n' :: '\r' :: out) s
  | fuel + 1, out, c :: s =>
    if isControl c && c != '\n' then none else readLongLiteral fuel (c :: out) s

/-- A string on one line, with its opening quote. -/
def readShort : List Char → Option (String × List Char)
  | '\x22' :: s => readBasic (s.length + 1) [] s
  | '\x27' :: s => readLiteral [] s
  | _ => none

/-- A string of any kind, with its opening quotes. A line end directly behind three quotes is no
    part of the string. -/
def readQuoted : List Char → Option (String × List Char)
  | '\x22' :: '\x22' :: '\x22' :: s =>
    let s := (lineEnd? s).getD s
    readLongBasic (s.length + 1) [] s
  | '\x27' :: '\x27' :: '\x27' :: s =>
    let s := (lineEnd? s).getD s
    readLongLiteral (s.length + 1) [] s
  | s => readShort s

end SqlSmell.Toml

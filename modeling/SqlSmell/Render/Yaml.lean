import SqlSmell.Render.Document
import SqlSmell.Text.Basic

/- Structured output as YAML, in block style. A text is written plainly if nothing in it would be
   read as something else; otherwise in single quotes, in double quotes if it holds characters that
   cannot be printed, or as a literal block if it has several lines. -/
namespace SqlSmell.Render.Yaml

/-! ## Texts that read as something else -/

/-- Is the text a number in the given base, at most `bound`? Leading zeros do not count, and no
    bound has more than 128 digits. -/
def isNumberUpTo (bound base : Nat) (s : List Char) : Bool :=
  let significant := s.dropWhile (· == '0')
  if 128 < significant.length then false
  else if significant.isEmpty then !s.isEmpty
  else match Text.digitsValue? base significant with
    | some n => n ≤ bound
    | none => false

/-- The text behind a sign. -/
def withoutSign : List Char → List Char
  | '+' :: s => s
  | '-' :: s => s
  | s => s

/-- Digits with a leading zero, which no reader takes for a number. -/
def isZeroLed (s : List Char) : Bool :=
  match withoutSign s with
  | '0' :: c :: s => (c :: s).all Char.isDigit
  | _ => false

/-- Is the text an integer, unsigned up to 2¹²⁸ - 1 and negative down to -2¹²⁷? -/
def isInteger (s : List Char) : Bool :=
  let unsigned := Nat.pow 2 128 - 1
  let negative := Nat.pow 2 127
  let body (bound : Nat) : List Char → Bool
    | '0' :: 'x' :: s => isNumberUpTo bound 16 s
    | '0' :: 'o' :: s => isNumberUpTo bound 8 s
    | '0' :: 'b' :: s => isNumberUpTo bound 2 s
    | s => !isZeroLed s && isNumberUpTo bound 10 s
  match s with
  | '+' :: s => body unsigned s
  | '-' :: s => body negative s
  | s => body unsigned s

/-- The exponent that ends a float: none, or an `e` with a whole number. -/
def exponent? : List Char → Option Int
  | [] => some 0
  | c :: s =>
    if c == 'e' || c == 'E' then
      match s with
      | '-' :: s => (Text.digitsValue? 10 s).map fun n => -(n : Int)
      | '+' :: s => (Text.digitsValue? 10 s).map fun n => (n : Int)
      | s => (Text.digitsValue? 10 s).map fun n => (n : Int)
    else none

/-- Is the text a finite float: digits, with or without a point and an exponent? -/
def isDecimalFloat (s : List Char) : Bool :=
  let whole := s.takeWhile Char.isDigit
  let (fraction, rest) :=
    match s.dropWhile Char.isDigit with
    | '.' :: s => (s.takeWhile Char.isDigit, s.dropWhile Char.isDigit)
    | s => ([], s)
  if whole.isEmpty && fraction.isEmpty then false
  else match exponent? rest with
    | none => false
    | some e => Text.fitsFloat (whole ++ fraction) (e - fraction.length)

/-- Is the text a float, finite or not? -/
def isFloat (s : List Char) : Bool :=
  let infinity (s : List Char) : Bool :=
    s == ".inf".toList || s == ".Inf".toList || s == ".INF".toList
  match s with
  | '+' :: s => infinity s || isDecimalFloat s
  | '-' :: s => infinity s || isDecimalFloat s
  | s => infinity s || s == ".nan".toList || s == ".NaN".toList || s == ".NAN".toList ||
      isDecimalFloat s

/-- The words that are no text. -/
def reserved : List String :=
  ["", "~", "null", "Null", "NULL", "true", "True", "TRUE", "false", "False", "FALSE"]

/-- Would a reader take the text for something else? -/
def isAmbiguous (s : String) : Bool :=
  let cs := s.toList
  reserved.contains s || isZeroLed cs || isInteger cs || isFloat cs

/-! ## Characters -/

/-- Does the character end a line? -/
def isBreak (c : Char) : Bool :=
  c == '\n' || c == '\r' || c.toNat == 0x85 || c.toNat == 0x2028 || c.toNat == 0x2029

/-- Can the character be written as it is? -/
def isPrintable (c : Char) : Bool :=
  let n := c.toNat
  n == 0x0A || (0x20 ≤ n && n ≤ 0x7E) || (0xA0 ≤ n && n != 0xFEFF && n != 0xFFFE && n != 0xFFFF)

/-- A blank, a tab or a line end. -/
def isGap (c : Char) : Bool := c == ' ' || c == '\t' || isBreak c || c.toNat == 0

/-- Is the next character a gap, or is there none? -/
def gapFollows : List Char → Bool
  | [] => true
  | c :: _ => isGap c

/-- The characters that cannot start a plain text. -/
def indicators : List Char := "#,[]\x7b\x7d&*!|>'\"%@`".toList

/-- Does a mark that means something stand behind the first character? -/
def hasMarkBehind (before : Char) : List Char → Bool
  | [] => false
  | c :: s =>
    (c == ':' && gapFollows s) || (c == '#' && isGap before) || hasMarkBehind c s

/-- Does a mark that means something stand in the text? -/
def hasMark : List Char → Bool
  | [] => false
  | c :: s =>
    indicators.contains c || ((c == '?' || c == ':' || c == '-') && gapFollows s)
      || hasMarkBehind c s

/-- Does the text start like the border of a document? -/
def startsBorder : List Char → Bool
  | '-' :: '-' :: '-' :: _ => true
  | '.' :: '.' :: '.' :: _ => true
  | _ => false

/-- Does a character of the first kind stand directly before one of the second? -/
def adjacent (p q : Char → Bool) : List Char → Bool
  | c :: d :: s => (p c && q d) || adjacent p q (d :: s)
  | _ => false

/-! ## Styles -/

/-- The ways to write a text. -/
inductive Style
  | plain
  | single
  | double
  | literal
deriving DecidableEq

/-- Must the text be in double quotes, where everything can be escaped? -/
def needsEscapes (s : List Char) : Bool :=
  s.any (fun c => !isPrintable c) || adjacent (· == ' ') isBreak s

/-- Can the text stand without quotes? -/
def fitsPlain (s : List Char) : Bool :=
  !s.any isBreak && s.head? != some ' ' && s.getLast? != some ' ' && !startsBorder s && !hasMark s

/-- The way a text is written. -/
def style (text : String) : Style :=
  let s := text.toList
  if s.contains '\n' then
    if needsEscapes s || s.getLast? == some ' ' then .double else .literal
  else if needsEscapes s then .double
  else if !isAmbiguous text && fitsPlain s then .plain
  else if adjacent isBreak (· == ' ') s then .double
  else .single

/-- `digits` hexadecimal digits in capitals. -/
def hexPadded (n : Nat) : (digits : Nat) → List Char
  | 0 => []
  | digits + 1 => hexPadded (n / 16) digits ++ [(Nat.digitChar (n % 16)).toUpper]

/-- A character inside double quotes. -/
def doubleChar (c : Char) : List Char :=
  let n := c.toNat
  if isPrintable c && !isBreak c && c != '\x22' && c != '\\' then [c]
  else match c with
    | '\x00' => ['\\', '0']
    | '\x07' => ['\\', 'a']
    | '\x08' => ['\\', 'b']
    | '\t' => ['\\', 't']
    | '\n' => ['\\', 'n']
    | '\x0b' => ['\\', 'v']
    | '\x0c' => ['\\', 'f']
    | '\r' => ['\\', 'r']
    | '\x1b' => ['\\', 'e']
    | '\x22' => ['\\', '\x22']
    | '\\' => ['\\', '\\']
    | _ =>
      if n == 0x85 then ['\\', 'N']
      else if n == 0x2028 then ['\\', 'L']
      else if n == 0x2029 then ['\\', 'P']
      else if n ≤ 0xFF then '\\' :: 'x' :: hexPadded n 2
      else if n ≤ 0xFFFF then '\\' :: 'u' :: hexPadded n 4
      else '\\' :: 'U' :: hexPadded n 8

/-- The characters of a text with `write` applied, and each line after the first, unless it is
    empty, indented by `indent`. `atStart` says that a line starts here. The result is in reverse on
    `out`. -/
def indentLines (indent : Nat) (write : Char → List Char) (atStart : Bool) (out : List Char) :
    List Char → List Char
  | [] => out
  | c :: s =>
    if isBreak c then indentLines indent write true (c :: out) s
    else
      let out := if atStart then List.replicate indent ' ' ++ out else out
      indentLines indent write false ((write c).reverse ++ out) s

/-- A quote mark inside single quotes is doubled. -/
def singleChar (c : Char) : List Char := if c == '\x27' then [c, c] else [c]

/-- Says how many line ends close a literal block: one unless marked. -/
def chomping (s : List Char) : List Char :=
  match s.reverse with
  | [] => ['-']
  | last :: more =>
    if !isBreak last then ['-']
    else match more with
      | [] => ['+']
      | c :: _ => if isBreak c then ['+'] else []

/-- Says the indentation of a literal block whose first line does not show it. -/
def indentation (s : List Char) : List Char :=
  match s with
  | c :: _ => if c == ' ' || isBreak c then ['2'] else []
  | [] => []

/-- A text with the line end behind it. Lines behind the first are indented by `indent`. -/
def scalar (indent : Nat) (text : String) : String :=
  let s := text.toList
  match style text with
  | .plain => text ++ "\n"
  | .single =>
    let body := indentLines indent singleChar false ['\x27'] s
    let body := if s.getLast?.any isBreak then List.replicate indent ' ' ++ body else body
    String.ofList ('\n' :: '\x27' :: body).reverse
  | .double => String.ofList ('\x22' :: (s.flatMap doubleChar ++ ['\x22', '\n']))
  | .literal =>
    let opening := '|' :: (indentation s ++ chomping s ++ ['\n'])
    let body := indentLines indent (fun c => [c]) true opening.reverse s
    let body := if s.getLast?.any isBreak then body else '\n' :: body
    String.ofList body.reverse

end SqlSmell.Render.Yaml

namespace SqlSmell.Render

mutual

/-- A value on the line of its key or dash; what goes on further lines is indented by `indent`,
    except list items, which stand at column `column`. -/
def Document.yaml (column indent : Nat) : Document → String
  | .text s => " " ++ Yaml.scalar indent s
  | .number n => " " ++ toString n ++ "\n"
  | .flag b => " " ++ flagText b ++ "\n"
  | .list [] => " []\n"
  | .list (d :: ds) => "\n" ++ yamlItems column (d :: ds)
  | .record [] => " \x7b\x7d\n"
  | .record (f :: fields) => "\n" ++ yamlFields indent (f :: fields)

/-- Items at the given column, each behind a dash. -/
def yamlItems (column : Nat) : List Document → String
  | [] => ""
  | .record ((name, d) :: fields) :: ds =>
    blanks column ++ "- " ++ name ++ ":" ++ d.yaml (column + 2) (column + 4) ++
      yamlFields (column + 2) fields ++ yamlItems column ds
  | d :: ds => blanks column ++ "-" ++ d.yaml (column + 2) (column + 2) ++ yamlItems column ds

/-- Fields at the given column. -/
def yamlFields (column : Nat) : List (String × Document) → String
  | [] => ""
  | (name, d) :: fields =>
    blanks column ++ name ++ ":" ++ d.yaml column (column + 2) ++ yamlFields column fields

end

/-- A whole document. -/
def Document.toYaml : Document → String
  | .list (d :: ds) => yamlItems 0 (d :: ds)
  | .record (f :: fields) => yamlFields 0 (f :: fields)
  | .text s => Yaml.scalar 0 s
  | .number n => toString n ++ "\n"
  | .flag b => flagText b ++ "\n"
  | .list [] => "[]\n"
  | .record [] => "\x7b\x7d\n"

end SqlSmell.Render

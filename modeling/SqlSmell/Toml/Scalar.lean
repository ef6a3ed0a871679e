import SqlSmell.Text.Basic
import SqlSmell.Toml.Value

/- Values written without quotes: truth values, numbers, dates and times. -/
namespace SqlSmell.Toml

/-! ## Numbers -/

/-- Does every underscore stand between digits? `behind` says whether a digit, or what counts as
    one, stands in front of the text. -/
def betweenDigits (isDigit : Char → Bool) (behind : Bool) : List Char → Bool
  | [] => true
  | ['_'] => false
  | '_' :: c :: s => behind && isDigit c && betweenDigits isDigit true s
  | c :: s => betweenDigits isDigit (isDigit c) s

/-- Are the underscores of a number in their places? The first character counts as a digit, so that
    one may stand behind a sign. -/
def underscoresFit (isDigit : Char → Bool) : List Char → Bool
  | [] => true
  | c :: s => c != '_' && betweenDigits isDigit true s

/-- The number without its underscores. -/
def withoutUnderscores (s : List Char) : List Char := s.filter (· != '_')

/-- The sign, if there is one, and the text behind it. -/
def splitSign : List Char → Option Bool × List Char
  | '-' :: s => (some true, s)
  | '+' :: s => (some false, s)
  | s => (none, s)

/-- The value of decimal digits behind an optional sign. -/
def signedValue? (s : List Char) : Option Int :=
  let (sign, digits) := splitSign s
  (Text.digitsValue? 10 digits).map fun n => if sign == some true then -(n : Int) else n

/-- Does the text start with a zero that more digits follow? -/
def zeroLed (digits : List Char) : Bool :=
  digits.head? == some '0' && 1 < digits.length

/-- The digits of a number in the given base, which may be missing. -/
def based? (base : Nat) (s : List Char) : Option Value :=
  let isDigit (c : Char) : Bool := (Text.digitValue? base c).isSome
  if s.all (fun c => isDigit c || c == '_') && underscoresFit isDigit s then
    some (.integer (Text.digitsValue? base (withoutUnderscores s)))
  else none

/-- Is the character the mark of a float? -/
def isFloatMark (c : Char) : Bool := c == '.' || c == 'e' || c == 'E'

/-- Is the text behind its first digits written like the rest of a whole number? It ends there, or an
    underscore follows; then anything may, and only the underscores are looked at. -/
def continuesInteger : List Char → Bool
  | [] => true
  | c :: s => c == '_' && !s.any isFloatMark

/-- A whole number. Other bases than ten take no sign. -/
def integer? (word : List Char) : Option Value :=
  match word with
  | '0' :: 'x' :: s => based? 16 s
  | '0' :: 'o' :: s => based? 8 s
  | '0' :: 'b' :: s => based? 2 s
  | _ =>
    let (_, s) := splitSign word
    let isDigit (c : Char) : Bool := (Text.digitValue? 16 c).isSome
    if !s.isEmpty && !zeroLed s && continuesInteger (s.dropWhile Char.isDigit) &&
        underscoresFit isDigit word then
      some (.integer (signedValue? (withoutUnderscores word)))
    else none

/-- Does the character occur in a run of digits? -/
def isDigitOrUnderscore (c : Char) : Bool := c.isDigit || c == '_'

/-- The first run of digits without its underscores, if it has a digit, and the text behind it. -/
def readDigits (s : List Char) : Option (List Char × List Char) :=
  match withoutUnderscores (s.takeWhile isDigitOrUnderscore) with
  | [] => none
  | digits => some (digits, s.dropWhile isDigitOrUnderscore)

/-- The fraction of a float; without a point it has no digits. -/
def readDecimals : List Char → Option (List Char × List Char)
  | '.' :: s => readDigits s
  | s => some ([], s)

/-- The exponent at the end of a float; without one it is zero. -/
def floatExponent? : List Char → Option Int
  | [] => some 0
  | c :: s =>
    if c == 'e' || c == 'E' then do
      let (sign, s) := splitSign s
      let (digits, []) ← readDigits s | none
      let n ← Text.digitsValue? 10 digits
      return if sign == some true then -(n : Int) else n
    else none

/-- A float: infinite, not a number, or digits with a fraction, an exponent or both. -/
def float? (word : List Char) : Option Value :=
  let (_, s) := splitSign word
  if s == "inf".toList || s == "nan".toList then some (.float true)
  else if !s.any isFloatMark || !underscoresFit Char.isDigit word then none
  else do
    let (whole, rest) ← readDigits s
    if s.head? == some '0' && zeroLed whole then none
    let (fraction, rest) ← readDecimals rest
    let e ← floatExponent? rest
    return .float (Text.fitsFloat (whole ++ fraction) (e - fraction.length))

/-! ## Dates and times -/

/-- A number of exactly `digits` digits, and the rest. -/
def readNumber (digits : Nat) (s : List Char) : Option (Nat × List Char) :=
  let first := s.take digits
  if first.length == digits && first.all Char.isDigit then do
    return (← Text.digitsValue? 10 first, s.drop digits)
  else none

/-- Is the year a leap year? -/
def isLeapYear (year : Nat) : Bool := year % 4 == 0 && (year % 100 != 0 || year % 400 == 0)

/-- The number of days of a month. -/
def daysOfMonth (year month : Nat) : Nat :=
  if month == 2 then (if isLeapYear year then 29 else 28)
  else if month == 4 || month == 6 || month == 9 || month == 11 then 30
  else 31

/-- A number in decimal, filled up with zeros to the given width. -/
def padded (width n : Nat) : String :=
  let digits := Nat.toDigits 10 n
  String.ofList (List.replicate (width - digits.length) '0' ++ digits)

/-- A date in its canonical form, and the rest. -/
def readDate (s : List Char) : Option (String × List Char) := do
  let (year, s) ← readNumber 4 s
  let '-' :: s := s | none
  let (month, s) ← readNumber 2 s
  let '-' :: s := s | none
  let (day, s) ← readNumber 2 s
  if 1 ≤ month && month ≤ 12 && 1 ≤ day && day ≤ daysOfMonth year month then
    some (padded 4 year ++ "-" ++ padded 2 month ++ "-" ++ padded 2 day, s)
  else none

/-- A fraction of a second in its canonical form, nine places at most, and the rest. -/
def readFraction : List Char → Option (String × List Char)
  | '.' :: s =>
    let digits := s.takeWhile Char.isDigit
    if digits.isEmpty then none
    else
      let shown := ((digits.take 9).reverse.dropWhile (· == '0')).reverse
      let fraction := if shown.isEmpty then "" else "." ++ String.ofList shown
      some (fraction, s.drop digits.length)
  | s => some ("", s)

/-- A time of day in its canonical form, and the rest. The seconds may be missing. -/
def readTime (s : List Char) : Option (String × List Char) := do
  let (hour, s) ← readNumber 2 s
  let ':' :: s := s | none
  let (minute, s) ← readNumber 2 s
  let (second, fraction, s) ← match s with
    | ':' :: s => do
      let (second, s) ← readNumber 2 s
      let (fraction, s) ← readFraction s
      some (second, fraction, s)
    | s => some (0, "", s)
  if hour ≤ 23 && minute ≤ 59 && second ≤ 60 then
    some (padded 2 hour ++ ":" ++ padded 2 minute ++ ":" ++ padded 2 second ++ fraction, s)
  else none

/-- The distance from universal time in its canonical form, where none is positive; nothing may
    follow. -/
def offset? : List Char → Option String
  | [] => some ""
  | ['Z'] => some "Z"
  | ['z'] => some "Z"
  | sign :: s => do
    let (hour, s) ← readNumber 2 s
    let ':' :: s := s | none
    let (minute, s) ← readNumber 2 s
    let shown := if hour == 0 && minute == 0 then '+' else sign
    if (sign == '+' || sign == '-') && s.isEmpty && hour ≤ 23 && minute ≤ 59 then
      some (String.singleton shown ++ padded 2 hour ++ ":" ++ padded 2 minute)
    else none

/-- A date, a time, or a date and a time. -/
def datetime? (s : List Char) : Option Value :=
  match readDate s with
  | none => do
    let (time, rest) ← readTime s
    if rest.isEmpty then some (.datetime time) else none
  | some (date, []) => some (.datetime date)
  | some (date, c :: rest) => do
    if c != 'T' && c != 't' && c != ' ' then none
    let (time, rest) ← readTime rest
    return .datetime (date ++ "T" ++ time ++ (← offset? rest))

/-! ## All of them -/

/-- The value of a word without quotes. -/
def scalar? (s : List Char) : Option Value :=
  if s == "true".toList then some (.boolean true)
  else if s == "false".toList then some (.boolean false)
  else integer? s <|> float? s <|> datetime? s

/-- The characters that end a value without quotes. -/
def delimiters : List Char := "=,[]\x7b\x7d \t#\r\n".toList

/-- Can the character stand in a value without quotes? -/
def isScalarChar (c : Char) : Bool := !delimiters.contains c

/-- Reads a value without quotes. A single blank between a date and a time belongs to it. -/
def readScalar (s : List Char) : Option (Value × List Char) :=
  let word := s.takeWhile isScalarChar
  let rest := s.dropWhile isScalarChar
  let (word, rest) :=
    match (readDate word), rest with
    | some (_, []), ' ' :: c :: more =>
      if c.isDigit then
        (word ++ ' ' :: (c :: more).takeWhile isScalarChar, (c :: more).dropWhile isScalarChar)
      else (word, rest)
    | _, _ => (word, rest)
  (scalar? word).map fun v => (v, rest)

end SqlSmell.Toml

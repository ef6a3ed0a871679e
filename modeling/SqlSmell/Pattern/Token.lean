import SqlSmell.Pattern.Regex

/- The written form of patterns, cut into tokens. A token is one character or set to match, a
   condition on the position, a group mark, a bar or a quantifier. Whatever is not well formed
   (an unfinished class, count, group mark or escape) is refused here, apart from the balance of
   groups and the place of quantifiers.

   This is a part of the syntax that is common for patterns, and the rest of it is refused as well: flags
   (`(?i)`, `(?x)`) and with them comments and anchors of lines, classes of Unicode properties (`\p{L}`),
   characters by their number (`\x41`, `\u{41}`), intersections and differences of classes (`&&`, `--`,
   `~~`), and word boundaries with a name (`\b{start}`). There is no bound on the depth of groups. -/
namespace SqlSmell.Pattern

/-- Why a pattern is refused. -/
inductive PatternError
  /-- The text is not a pattern. -/
  | malformed
  /-- The pattern compiles to too many instructions. -/
  | tooLarge
deriving DecidableEq, Inhabited

/-- A token of a pattern. -/
inductive Token
  | set (s : CharSet)
  | anchor (a : Anchor)
  /-- Opens a group, which may have a name. -/
  | openGroup (name : Option (List Char))
  | closeGroup
  | bar
  /-- Applies to what stands before it. -/
  | quantifier (min : Nat) (max : Option Nat) (greedy : Bool)
deriving DecidableEq, Inhabited

/-! ## Escapes -/

/-- What a character stands for behind a backslash. -/
inductive Escaped
  | char (c : Char)
  | set (s : CharSet)
  | anchor (a : Anchor)

/-- A backslash makes classes, conditions and control characters of some letters, `<` and `>`, and
    takes any other ASCII character that is no letter or digit for itself. -/
def escaped? (c : Char) : Option Escaped :=
  match c with
  | 'd' => some (.set .decimal)
  | 'D' => some (.set (.not .decimal))
  | 's' => some (.set .blank)
  | 'S' => some (.set (.not .blank))
  | 'w' => some (.set .word)
  | 'W' => some (.set (.not .word))
  | 'A' => some (.anchor .textStart)
  | 'z' => some (.anchor .textEnd)
  | 'b' => some (.anchor .wordBoundary)
  | 'B' => some (.anchor .insideOrOutsideWord)
  | '<' => some (.anchor .wordStart)
  | '>' => some (.anchor .wordEnd)
  | 'n' => some (.char '\n')
  | 't' => some (.char '\t')
  | 'r' => some (.char '\r')
  | 'a' => some (.char '\x07')
  | 'f' => some (.char '\x0c')
  | 'v' => some (.char '\x0b')
  | c => if c.toNat < 128 && !c.isAlphanum then some (.char c) else none

/-- The token of an escape, behind its backslash. -/
def readEscape : List Char → Except PatternError (Token × List Char)
  | [] => .error .malformed
  | c :: rest =>
    match escaped? c with
    | some (.char c) => .ok (.set (.one c), rest)
    | some (.set s) => .ok (.set s, rest)
    | some (.anchor a) => .ok (.anchor a, rest)
    | none => .error .malformed

/-! ## Classes -/

/-- A member of a bracketed class: a character, which may be the end of a range, or a set. -/
inductive Member
  | char (c : Char)
  | set (s : CharSet)

/-- The set of a member that stands alone. -/
def Member.toSet : Member → CharSet
  | .char c => .one c
  | .set s => s

/-- Reads one member. A condition on positions is none. -/
def readMember : List Char → Except PatternError (Member × List Char)
  | [] => .error .malformed
  | '\\' :: rest =>
    match rest with
    | [] => .error .malformed
    | c :: rest =>
      match escaped? c with
      | some (.char c) => .ok (.char c, rest)
      | some (.set s) => .ok (.set s, rest)
      | _ => .error .malformed
  | c :: rest => .ok (.char c, rest)

/-- The range between two members, which must be characters in order. -/
def rangeOf : Member → Member → Except PatternError CharSet
  | .char first, .char last => if first ≤ last then .ok (.range first last) else .error .malformed
  | _, _ => .error .malformed

/-- Reads a member or a range. A `-` before the closing bracket, or before another `-`, makes no
    range. -/
def readMembers (s : List Char) : Except PatternError (CharSet × List Char) := do
  let (first, rest) ← readMember s
  match rest with
  | '-' :: ']' :: _ => .ok (first.toSet, rest)
  | '-' :: '-' :: _ => .ok (first.toSet, rest)
  | '-' :: rest =>
    let (last, rest) ← readMember rest
    let set ← rangeOf first last
    .ok (set, rest)
  | _ => .ok (first.toSet, rest)

/-- The classes of ASCII characters that have a name. -/
def asciiClasses : List (String × List (Char × Char)) :=
  [("alnum", [('0', '9'), ('A', 'Z'), ('a', 'z')]), ("alpha", [('A', 'Z'), ('a', 'z')]),
    ("ascii", [('\x00', '\x7f')]), ("blank", [('\t', '\t'), (' ', ' ')]),
    ("cntrl", [('\x00', '\x1f'), ('\x7f', '\x7f')]), ("digit", [('0', '9')]), ("graph", [('!', '~')]),
    ("lower", [('a', 'z')]), ("print", [(' ', '~')]),
    ("punct", [('!', '/'), (':', '@'), ('[', '\x60'), ('\x7b', '~')]),
    ("space", [('\t', '\r'), (' ', ' ')]), ("upper", [('A', 'Z')]),
    ("word", [('0', '9'), ('A', 'Z'), ('_', '_'), ('a', 'z')]),
    ("xdigit", [('0', '9'), ('A', 'F'), ('a', 'f')])]

/-- The class of ASCII characters of this name; a `^` before the name negates it. -/
def asciiClass? : (name : List Char) → Option CharSet
  | '^' :: name => (asciiClasses.lookup (String.ofList name)).map fun ranges => .not (.ofRanges ranges)
  | name => (asciiClasses.lookup (String.ofList name)).map .ofRanges

/-- Reads a class by its name, which stands between colons, behind its opening bracket. What has another
    form or another name is none. -/
def readAsciiClass? : List Char → Option (CharSet × List Char)
  | ':' :: s =>
    match asciiClass? (s.takeWhile (· != ':')), s.dropWhile (· != ':') with
    | some set, ':' :: ']' :: rest => some (set, rest)
    | _, _ => none
  | _ => none

/-- A class whose closing bracket has not been met. -/
structure OpenClass where
  negated : Bool
  set : CharSet

/-- Adds to the members. -/
def OpenClass.add (k : OpenClass) (s : CharSet) : OpenClass := { k with set := .union k.set s }

/-- The set of the class. -/
def OpenClass.close (k : OpenClass) : CharSet := if k.negated then .not k.set else k.set

/-- Takes the `-` at the start of a class for themselves. -/
def leadingDashes (k : OpenClass) : List Char → OpenClass × List Char
  | '-' :: rest => leadingDashes (k.add (.one '-')) rest
  | rest => (k, rest)

/-- Starts a class, behind its opening bracket: a `^` negates it, and then a `]` or any number of
    `-` stand for themselves. -/
def startClass (s : List Char) : OpenClass × List Char :=
  let (negated, s) :=
    match s with
    | '^' :: rest => (true, rest)
    | _ => (false, s)
  match s with
  | ']' :: rest => (⟨negated, .one ']'⟩, rest)
  | _ => leadingDashes ⟨negated, .none⟩ s

/-- Reads the members of a class up to its closing bracket. `outer` are the classes around it. A bracket
    opens another class inside, or names one of ASCII characters. Each round takes a character, so the
    length of the text is enough fuel. -/
def readClass : (fuel : Nat) → (outer : List OpenClass) → OpenClass → List Char →
    Except PatternError (CharSet × List Char)
  | 0, _, _, _ => .error .malformed
  | _ + 1, _, _, [] => .error .malformed
  | fuel + 1, outer, k, '[' :: rest =>
    match readAsciiClass? rest with
    | some (set, rest) => readClass fuel outer (k.add set) rest
    | none =>
      let (inner, rest) := startClass rest
      readClass fuel (k :: outer) inner rest
  | fuel + 1, outer, k, ']' :: rest =>
    match outer with
    | [] => .ok (k.close, rest)
    | around :: outer => readClass fuel outer (around.add k.close) rest
  | _ + 1, _, _, '&' :: '&' :: _ => .error .malformed
  | _ + 1, _, _, '-' :: '-' :: _ => .error .malformed
  | _ + 1, _, _, '~' :: '~' :: _ => .error .malformed
  | fuel + 1, outer, k, c :: rest => do
    let (set, rest) ← readMembers (c :: rest)
    readClass fuel outer (k.add set) rest

/-! ## Counts -/

/-- The greatest count that can be written. -/
def maxCount : Nat := Nat.pow 2 32 - 1

/-- Reads a decimal number, which may have blanks around it. -/
def readCount (s : List Char) : Except PatternError (Nat × List Char) :=
  let s := Text.trimStart s
  match s.takeWhile Char.isDigit with
  | [] => .error .malformed
  | digits =>
    let n := digits.foldl (fun n c => 10 * n + (c.toNat - '0'.toNat)) 0
    if n ≤ maxCount then .ok (n, Text.trimStart (s.dropWhile Char.isDigit)) else .error .malformed

/-- A question mark behind a quantifier makes it lazy. -/
def readLazy (min : Nat) (max : Option Nat) : List Char → Token × List Char
  | '?' :: rest => (.quantifier min max false, rest)
  | rest => (.quantifier min max true, rest)

/-- Reads a counted quantifier behind its opening brace. -/
def readBraces (s : List Char) : Except PatternError (Token × List Char) := do
  let (min, rest) ← readCount s
  match rest with
  | '}' :: rest => .ok (readLazy min (some min) rest)
  | ',' :: '}' :: rest => .ok (readLazy min none rest)
  | ',' :: rest =>
    let (max, rest) ← readCount rest
    match rest with
    | '}' :: rest => if min ≤ max then .ok (readLazy min (some max) rest) else .error .malformed
    | _ => .error .malformed
  | _ => .error .malformed

/-! ## Groups -/

/-- Can a group's name start with the character? -/
def startsName (c : Char) : Bool := c == '_' || (Text.isWord c && !Text.isDecimal c)

/-- Can the character stand further on in a group's name? -/
def continuesName (c : Char) : Bool := Text.isWord c || c == '.' || c == '[' || c == ']'

/-- Reads a group's name up to its closing angle. -/
def readName (s : List Char) : Except PatternError (Token × List Char) :=
  let name := s.takeWhile (· != '>')
  match name, s.dropWhile (· != '>') with
  | c :: more, _ :: rest =>
    if startsName c && more.all continuesName then .ok (.openGroup (some name), rest)
    else .error .malformed
  | _, _ => .error .malformed

/-- Reads the opening of a group behind its parenthesis: plain, without capture, or named. -/
def readGroup : List Char → Except PatternError (Token × List Char)
  | '?' :: ':' :: rest => .ok (.openGroup none, rest)
  | '?' :: 'P' :: '<' :: rest => readName rest
  | '?' :: '<' :: rest => readName rest
  | '?' :: _ => .error .malformed
  | rest => .ok (.openGroup none, rest)

/-! ## Tokens -/

/-- Reads the token that starts with character `c`. -/
def readToken (c : Char) (rest : List Char) : Except PatternError (Token × List Char) :=
  match c with
  | '\\' => readEscape rest
  | '[' =>
    let (k, rest) := startClass rest
    match readClass (rest.length + 1) [] k rest with
    | .ok (s, rest) => .ok (.set s, rest)
    | .error e => .error e
  | '{' => readBraces rest
  | '(' => readGroup rest
  | ')' => .ok (.closeGroup, rest)
  | '|' => .ok (.bar, rest)
  | '.' => .ok (.set .dot, rest)
  | '^' => .ok (.anchor .textStart, rest)
  | '$' => .ok (.anchor .textEnd, rest)
  | '*' => .ok (readLazy 0 none rest)
  | '+' => .ok (readLazy 1 none rest)
  | '?' => .ok (readLazy 0 (some 1) rest)
  | c => .ok (.set (.one c), rest)

/-- Reads all tokens, putting them in reverse on `out`. Each takes a character, so the length of the
    text is enough fuel. -/
def readTokens : (fuel : Nat) → (out : List Token) → List Char → Except PatternError (List Token)
  | _, out, [] => .ok out.reverse
  | 0, _, _ :: _ => .error .malformed
  | fuel + 1, out, c :: rest => do
    let (token, rest) ← readToken c rest
    readTokens fuel (token :: out) rest

/-- The tokens of a pattern. -/
def tokens (pattern : List Char) : Except PatternError (List Token) :=
  readTokens pattern.length [] pattern

end SqlSmell.Pattern

import SqlSmell.Toml.Quoted
import SqlSmell.Toml.Scalar

/- Reading a TOML document: lines that set a key or open a table. There is one way to fail, which is
   not to be a document; a key that is set twice or a table that is opened twice fails too. -/
namespace SqlSmell.Toml

/-- The text behind blanks and tabs. -/
def skipSpace (s : List Char) : List Char := s.dropWhile isSpace

/-- The text behind a comment, if one starts here; a comment ends before the line end. -/
def skipComment? : List Char → Option (List Char)
  | '#' :: s =>
    let rest := s.dropWhile (fun c => !isControl c)
    match rest with
    | [] => some []
    | _ => (lineEnd? rest).map fun _ => rest
  | s => some s

/-- The text behind blanks, line ends and comments. -/
def skipLines : (fuel : Nat) → List Char → Option (List Char)
  | 0, _ => none
  | fuel + 1, s => do
    let s ← skipComment? (skipSpace s)
    match lineEnd? s with
    | some s => skipLines fuel s
    | none => some s

/-- The text behind blanks, line ends and comments, with fuel enough. -/
def skipGap (s : List Char) : Option (List Char) := skipLines (s.length + 1) s

/-! ## Keys -/

/-- Can the character stand in a key without quotes? -/
def isBareKeyChar (c : Char) : Bool := c.isAlphanum || c == '_' || c == '-'

/-- One part of a key. -/
def readKeyPart (s : List Char) : Option (String × List Char) :=
  match s with
  | '\x22' :: _ => readShort s
  | '\x27' :: _ => readShort s
  | _ =>
    match s.takeWhile isBareKeyChar with
    | [] => none
    | word => some (String.ofList word, s.dropWhile isBareKeyChar)

/-- The greatest depth of arrays and tables in each other, and the greatest number of parts of a
    key. -/
def maxDepth : Nat := 80

/-- A key of at most `parts` parts with dots between them. The parts before the last are in reverse
    on `path`. -/
def readParts : (parts : Nat) → (path : List String) → List Char →
    Option (List String × String × List Char)
  | 0, _, _ => none
  | parts + 1, path, s => do
    let (part, s) ← readKeyPart (skipSpace s)
    match skipSpace s with
    | '.' :: s => readParts parts (part :: path) s
    | s => some (path.reverse, part, s)

/-- A key: the parts before the last, the last one, and the text behind the key. -/
def readKey (s : List Char) : Option (List String × String × List Char) := readParts maxDepth [] s

/-! ## Values -/

mutual

/-- A value, at most `depth` levels deep. -/
def readValue : (fuel depth : Nat) → List Char → Option (Value × List Char)
  | 0, _, _ => none
  | fuel + 1, depth, s =>
    match s with
    | '\x22' :: _ => (readQuoted s).map fun (t, s) => (.text t, s)
    | '\x27' :: _ => (readQuoted s).map fun (t, s) => (.text t, s)
    | '[' :: s =>
      match depth with
      | 0 => none
      | depth + 1 => readItems fuel depth [] s
    | '{' :: s =>
      match depth with
      | 0 => none
      | depth + 1 => readEntries fuel depth [] s
    | s => readScalar s

/-- The items of an array, behind its bracket or a comma; those before are in reverse on `out`. -/
def readItems : (fuel depth : Nat) → (out : List Value) → List Char → Option (Value × List Char)
  | 0, _, _, _ => none
  | fuel + 1, depth, out, s => do
    match ← skipGap s with
    | ']' :: s => some (.array false out.reverse, s)
    | s =>
      let (v, s) ← readValue fuel depth s
      match ← skipGap s with
      | ',' :: s => readItems fuel depth (v :: out) s
      | ']' :: s => some (.array false (v :: out).reverse, s)
      | _ => none

/-- The entries of a table in braces, behind its brace or a comma. Lines may end anywhere but inside
    a key. -/
def readEntries : (fuel depth : Nat) → (out : Entries) → List Char → Option (Value × List Char)
  | 0, _, _, _ => none
  | fuel + 1, depth, out, s => do
    match ← skipGap s with
    | '}' :: s => some (.table .inline out, s)
    | s =>
      let (path, key, s) ← readKey s
      let '=' :: s ← skipGap s | none
      let (v, s) ← readValue fuel depth (← skipGap s)
      let (_, out) ← Entries.insert path key v .inline out
      match ← skipGap s with
      | ',' :: s => readEntries fuel depth out s
      | '}' :: s => some (.table .inline out, s)
      | _ => none

end

/-! ## Lines -/

/-- A line that says something. -/
inductive Line
  | setKey (path : List String) (key : String) (v : Value)
  | openTable (path : List String) (key : String)
  | openItem (path : List String) (key : String)

/-- A line, and the text behind it on the same line. -/
def readLine : List Char → Option (Line × List Char)
  | '[' :: '[' :: s => do
    let (path, key, s) ← readKey s
    match s with
    | ']' :: ']' :: s => some (.openItem path key, s)
    | _ => none
  | '[' :: s => do
    let (path, key, s) ← readKey s
    match s with
    | ']' :: s => some (.openTable path key, s)
    | _ => none
  | s => do
    let (path, key, s) ← readKey s
    let '=' :: s := s | none
    let (v, s) ← readValue (s.length + 1) maxDepth (skipSpace s)
    some (.setKey path key v, s)

/-- The document so far: the path of the open table, and all entries. -/
structure Draft where
  header : List String
  entries : Entries

/-- Adds a line. -/
def Draft.add (d : Draft) : Line → Option Draft
  | .setKey path key v => do
    return { d with entries := ← Entries.insertBelow d.header path key v d.entries }
  | .openTable path key => do
    return ⟨path ++ [key], ← Entries.openTable path key d.entries⟩
  | .openItem path key => do
    return ⟨path ++ [key], ← Entries.openItem path key d.entries⟩

/-- Reads lines. A line ends with blanks, a comment and a line end, or with the text. -/
def readDocument : (fuel : Nat) → Draft → List Char → Option Entries
  | 0, _, _ => none
  | fuel + 1, d, s => do
    match ← skipGap s with
    | [] => some d.entries
    | s =>
      let (line, s) ← readLine s
      let d ← d.add line
      match ← skipComment? (skipSpace s) with
      | [] => some d.entries
      | s => readDocument fuel d (← lineEnd? s)

/-- The entries of a document. A byte order mark at the start is skipped. -/
def parse (text : String) : Option Entries :=
  let s := match text.toList with
    | '\ufeff' :: s => s
    | s => s
  readDocument (s.length + 1) ⟨[], []⟩ s

end SqlSmell.Toml

/- Structured output: records whose fields keep their order, lists and scalars; and its form as JSON, one
   value per line and two blanks per level. -/
namespace SqlSmell.Render

/-- A structured value. -/
inductive Document
  | text (s : String)
  | number (n : Nat)
  | flag (b : Bool)
  | list (items : List Document)
  /-- Fields by name, in the order in which they are written. -/
  | record (fields : List (String × Document))

/-- `n` blanks. -/
def blanks (n : Nat) : String := String.ofList (List.replicate n ' ')

/-- The text of a truth value in every format. -/
def flagText (b : Bool) : String := if b then "true" else "false"

/-! ## JSON -/

/-- A hexadecimal digit, in small letters. -/
def hexDigit (n : Nat) : Char := Nat.digitChar (n % 16)

/-- A character inside a JSON string. Only quotes, backslashes and controls are escaped. -/
def jsonChar (c : Char) : List Char :=
  match c with
  | '\x22' => ['\\', '\x22']
  | '\\' => ['\\', '\\']
  | '\x08' => ['\\', 'b']
  | '\x0c' => ['\\', 'f']
  | '\n' => ['\\', 'n']
  | '\r' => ['\\', 'r']
  | '\t' => ['\\', 't']
  | c =>
    if c.toNat < 0x20 then ['\\', 'u', '0', '0', hexDigit (c.toNat / 16), hexDigit c.toNat]
    else [c]

/-- A JSON string. -/
def jsonString (s : String) : String :=
  String.ofList ('\x22' :: (s.toList.flatMap jsonChar ++ ['\x22']))

mutual

/-- A value that starts on a line indented by `indent` blanks. -/
def Document.json (indent : Nat) : Document → String
  | .text s => jsonString s
  | .number n => toString n
  | .flag b => flagText b
  | .list [] => "[]"
  | .list (d :: ds) =>
    "[\n" ++ blanks (indent + 2) ++ d.json (indent + 2) ++ jsonItems (indent + 2) ds ++ "\n" ++
      blanks indent ++ "]"
  | .record [] => "\x7b\x7d"
  | .record ((name, d) :: fields) =>
    "\x7b\n" ++ blanks (indent + 2) ++ jsonString name ++ ": " ++ d.json (indent + 2) ++
      jsonFields (indent + 2) fields ++ "\n" ++ blanks indent ++ "\x7d"

/-- The items behind the first one. -/
def jsonItems (indent : Nat) : List Document → String
  | [] => ""
  | d :: ds => ",\n" ++ blanks indent ++ d.json indent ++ jsonItems indent ds

/-- The fields behind the first one. -/
def jsonFields (indent : Nat) : List (String × Document) → String
  | [] => ""
  | (name, d) :: fields =>
    ",\n" ++ blanks indent ++ jsonString name ++ ": " ++ d.json indent ++ jsonFields indent fields

end

end SqlSmell.Render

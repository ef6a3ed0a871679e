import SqlSmell.Text.Basic
import SqlSmell.Text.Case

/- Statements: the text of one together with the place it was read from, its normal form, and what can be
   read off that about table definitions. The normal form has small letters, and single spaces in place
   of blank runs; quoted segments are copied as they stand, so literals and quoted names keep their case
   and spacing. -/
namespace SqlSmell

/-- The text of one statement, without its delimiter, and where it starts. -/
structure Statement where
  /-- The path of the script, or `stdin`. -/
  source : String
  /-- The line, counted from one, of the statement's first character. -/
  line : Nat
  text : String
deriving DecidableEq, Inhabited

/-- A statement is shown as its text. -/
instance : ToString Statement := ⟨Statement.text⟩

/-- The length of the text in bytes of its UTF-8 form. -/
def Statement.byteLength (s : Statement) : Nat := s.text.utf8ByteSize

/-! ## Normal form -/

/-- The marks that open and close a quoted segment: apostrophe, double quote, backquote. -/
def isQuote (c : Char) : Bool := c == '\x27' || c == '\x22' || c == '\x60'

namespace Normal

/-- The state of the pass over a text. -/
structure Pass where
  /-- The mark that ends the quoted segment the pass is in. -/
  quote : Option Char
  /-- Blanks have been passed since the last character that was written. -/
  gap : Bool
  /-- What has been written, in reverse. -/
  out : List Char

/-- The pass before the first character. -/
def Pass.start : Pass := ⟨none, false, []⟩

/-- Reads one character. Outside quotes a blank is only noted, and leading blanks are not even
    that; any other character writes the space that is due and then its small form. -/
def Pass.read (p : Pass) (c : Char) : Pass :=
  match p.quote with
  | some q => { p with quote := if c == q then none else some q, out := c :: p.out }
  | none =>
    if Text.isBlank c then { p with gap := !p.out.isEmpty }
    else
      let out := if p.gap then ' ' :: p.out else p.out
      if isQuote c then ⟨some c, false, c :: out⟩
      else ⟨none, false, (Text.lowerChar c).reverse ++ out⟩

end Normal

/-- The normal form of a text. -/
def normalChars (s : List Char) : List Char := (s.foldl Normal.Pass.read .start).out.reverse

/-- The normal form of statement text. -/
def normalize (text : String) : String := String.ofList (normalChars text.toList)

/-! ## Table definitions -/

namespace Creation

/-- The words that open a table definition. -/
def opening : List Char := "create table".toList

/-- The words that may stand between the opening and the name. -/
def guardWords : List (List Char) := ["if".toList, "not".toList, "exists".toList]

/-- Is the statement a table definition? -/
def isCreation (sql : String) : Bool := Text.occurs opening sql.toList

/-- Does the text end here, or go on with a blank? -/
def atBlankOrEnd : List Char → Bool
  | [] => true
  | c :: _ => Text.isBlank c

/-- The text behind the given words, each followed by blanks or the end; `none` if one is missing. -/
def afterWords? : (words : List (List Char)) → List Char → Option (List Char)
  | [], s => some s
  | word :: words, s =>
    match Text.afterStart? word s with
    | some rest => if atBlankOrEnd rest then afterWords? words (Text.trimStart rest) else none
    | none => none

/-- The text behind a complete guard; an incomplete one is not a guard. -/
def skipGuard (s : List Char) : List Char := (afterWords? guardWords s).getD s

/-- Can the character be part of an unquoted table name? -/
def isNameChar (c : Char) : Bool := !(Text.isBlank c || c == '(' || c == ';')

/-- The name of the table that the statement defines; empty if there is none. -/
def tableName (sql : String) : String :=
  match Text.after? opening sql.toList with
  | none => ""
  | some rest => String.ofList ((skipGuard (Text.trimStart rest)).takeWhile isNameChar)

end Creation

end SqlSmell

import SqlSmell.Error
import SqlSmell.Script.Scan

/- Cutting a script into statements, and loading it for analysis. The characters kept between two cuts,
   trimmed, are a statement; blank ones are skipped and the last needs no delimiter. A script is loaded if
   none of its statements is too long, and then each is brought into normal form. -/
namespace SqlSmell.Script

/-- The statement in progress. -/
structure Draft where
  /-- The characters kept so far, in reverse. -/
  text : List Char
  /-- The line of the first character that is not blank. -/
  line : Option Nat

/-- Nothing kept yet. -/
def Draft.empty : Draft := ⟨[], none⟩

/-- Keeps a character of the given line. -/
def Draft.keep (d : Draft) (c : Char) (line : Nat) : Draft where
  text := c :: d.text
  line := if d.line.isNone && !Text.isBlank c then some line else d.line

/-- The statement that the draft holds, unless it is blank. -/
def Draft.statement? (d : Draft) (source : String) (line : Nat) : Option Statement :=
  match Text.trim d.text.reverse with
  | [] => none
  | text => some ⟨source, d.line.getD line, String.ofList text⟩

/-- The state of the reader of a script. -/
structure Reader where
  mode : Mode
  /-- The line of the next character. -/
  line : Nat
  draft : Draft
  /-- The finished statements, last one first. -/
  finished : List Statement

/-- The reader before the first character. -/
def Reader.start : Reader := ⟨.code, 1, .empty, []⟩

/-- Takes one event on the current line. -/
def Reader.take (source : String) (r : Reader) : Event → Reader
  | .keep c => { r with draft := r.draft.keep c r.line }
  | .cut =>
    match r.draft.statement? source r.line with
    | none => { r with draft := .empty }
    | some s => { r with draft := .empty, finished := s :: r.finished }

/-- Reads one character. -/
def Reader.read (source : String) (delimiter : Char) (r : Reader) (c : Char) : Reader :=
  let (mode, events) := r.mode.read delimiter c
  let r := events.foldl (Reader.take source) { r with mode := mode }
  if c == '\n' then { r with line := r.line + 1 } else r

/-- All statements, once the script has ended. -/
def Reader.close (source : String) (r : Reader) : List Statement :=
  let r := (r.mode.leftover ++ [Event.cut]).foldl (Reader.take source) r
  r.finished.reverse

/-- The statements of a script, in order. -/
def statements (source : String) (delimiter : Char) (script : String) : List Statement :=
  (script.toList.foldl (Reader.read source delimiter) .start).close source

/-! ## Loading -/

/-- The normal form of a statement, unless its text is longer than `limit` bytes. -/
def loadOne (limit : Nat) (s : Statement) : Except Error Statement :=
  if limit < s.byteLength then .error (.overlongStatement s.source s.line s.byteLength limit)
  else .ok { s with text := normalize s.text }

/-- The statements of a script in normal form; fails on the first one that is too long. -/
def load (source : String) (delimiter : Char) (limit : Nat) (script : String) :
    Except Error (List Statement) :=
  (statements source delimiter script).mapM (loadOne limit)

end SqlSmell.Script

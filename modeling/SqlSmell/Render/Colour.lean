import SqlSmell.Rule.Severity
import SqlSmell.Text.Basic

/- Colours on a terminal: escape sequences around a text. -/
namespace SqlSmell.Render

/-- The codes of a style, as they stand in an escape sequence. -/
structure Colour where
  codes : String

/-- The header of a report. -/
def Colour.header : Colour := ⟨"1"⟩

/-- The place of a finding. -/
def Colour.location : Colour := ⟨"1;36"⟩

/-- The label of a severity. -/
def Colour.ofSeverity : Severity → Colour
  | .error => ⟨"1;31"⟩
  | .warning => ⟨"1;33"⟩
  | .info => ⟨"34"⟩

/-- The sequence that ends every style. -/
def resetSequence : List Char := ['\x1b', '[', '0', 'm']

/-- The sequence that starts a style. -/
def Colour.sequence (c : Colour) : List Char := ['\x1b', '['] ++ c.codes.toList ++ ['m']

/-- The text with the style started anew behind each sequence that ends one, in reverse on `out`.
    `skip` characters of such a sequence are still to be copied. -/
def restyle (start : List Char) (out : List Char) : (skip : Nat) → List Char → List Char
  | _, [] => out
  | skip + 1, c :: s =>
    restyle start (if skip == 0 then start.reverse ++ c :: out else c :: out) skip s
  | 0, c :: s =>
    match Text.afterStart? resetSequence (c :: s) with
    | some _ => restyle start (c :: out) (resetSequence.length - 1) s
    | none => restyle start (c :: out) 0 s

/-- The text in a style. The empty text takes none. -/
def Colour.paint (c : Colour) (s : String) : String :=
  if s.isEmpty then s
  else
    String.ofList (c.sequence ++ (restyle c.sequence [] 0 s.toList).reverse ++ resetSequence)

/-- The text in a style, if styles are on. -/
def Colour.paintIf (c : Colour) (coloured : Bool) (s : String) : String :=
  if coloured then c.paint s else s

end SqlSmell.Render

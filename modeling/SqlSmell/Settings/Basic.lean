import SqlSmell.Rule.Selection

/- Settings: a choice of rules and how output is to look. -/
namespace SqlSmell

/-- How output is to look. -/
structure OutputSettings where
  /-- Give the rationale of each rule. -/
  verbose : Bool
  color : Bool
  /-- Hide what is less grave; not checked yet. -/
  minSeverity : Option String
  /-- Statements of more bytes are refused. -/
  maxStatementLength : Nat
deriving DecidableEq, Inhabited

/-- All settings. -/
structure Settings where
  rules : Selection
  output : OutputSettings
deriving DecidableEq, Inhabited

/-- The settings unless something else is said: coloured, brief, and a mebibyte per statement. -/
def OutputSettings.default : OutputSettings := ⟨false, true, none, 1024 * 1024⟩

/-- All rules and the usual output. -/
def Settings.default : Settings := ⟨.all, .default⟩

/-- The least severity that is shown, if one is set. -/
def OutputSettings.leastSeverity (o : OutputSettings) : Except Error (Option Severity) :=
  match o.minSeverity with
  | none => .ok none
  | some text =>
    match Severity.ofText text with
    | .ok s => .ok (some s)
    | .error shown => .error (.unknownSeverity shown)

/-- Cuts a text at its commas. -/
def splitAtCommas (s : String) : List String :=
  let (last, pieces) := s.toList.foldl (fun (piece, pieces) c =>
    if c == ',' then (([] : List Char), piece.reverse :: pieces) else (c :: piece, pieces)) ([], [])
  ((last.reverse :: pieces).map String.ofList).reverse

/-- The titles of a list with commas between them, trimmed; blank ones are left out. -/
def titleList (s : String) : List String :=
  ((splitAtCommas s).map fun t => String.ofList (Text.trim t.toList)).filter fun t => !t.isEmpty

end SqlSmell

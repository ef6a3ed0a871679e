/- What can go wrong, by cause. A request is at fault if its configuration or its scripts are; other
   failures are internal. -/
namespace SqlSmell

/-- Why a file could not be read. -/
inductive ReadError
  | missing
  /-- A part of the path that should be a directory is a file. -/
  | notDirectory
  | isDirectory
  | notUtf8
  /-- Any other report of the system. -/
  | other (report : String)
deriving DecidableEq, Inhabited

/-- The report of the system. -/
def ReadError.message : ReadError → String
  | missing => "No such file or directory (os error 2)"
  | notDirectory => "Not a directory (os error 20)"
  | isDirectory => "Is a directory (os error 21)"
  | notUtf8 => "stream did not contain valid UTF-8"
  | other report => report

/-- Whose fault a failure is. -/
inductive ErrorKind
  | badRequest
  | internal
deriving DecidableEq, Inhabited

/-- A failure. -/
inductive Error
  | unreadableInput (path : String) (cause : ReadError)
  | overlongStatement (source : String) (line length limit : Nat)
  | unreadableConfig (path : String) (cause : ReadError)
  | invalidConfig (path : String)
  | invalidPattern (title pattern : String)
  | duplicateRule (title : String)
  | unknownRule (title : String) (known : List String)
  | repeatedOverride (title : String)
  | unknownSeverity (text : String)
  /-- The severity override of a rule has an unknown severity. -/
  | badOverride (title text : String)
deriving DecidableEq, Inhabited

/-- The first characters of a text, with a mark if there are more. -/
def abridge (s : String) (limit : Nat) : String :=
  if (s.toList.drop limit).isEmpty then s else String.ofList (s.toList.take limit) ++ "..."

namespace Error

/-- Whose fault the failure is. -/
def kind : Error → ErrorKind
  | unreadableInput .. | invalidPattern .. => .internal
  | _ => .badRequest

/-- A severity that is none. -/
def severityMessage (text : String) : String :=
  s!"unknown severity '{text}' (expected info, warn or error)"

/-- The text of the failure. The report of a foreign reader (of patterns, of configuration files)
    would follow the last colon. -/
def message : Error → String
  | unreadableInput path cause =>
    let report := cause.message
    s!"Failed to read file '{path}': {report}"
  | overlongStatement source line length limit =>
    s!"{source}:{line}: statement is {length} bytes, longer than the {limit} byte limit"
  | unreadableConfig path cause =>
    let report := cause.message
    s!"Failed to read config file '{path}': {report}"
  | invalidConfig path => s!"Invalid config file '{path}': "
  | invalidPattern title pattern =>
    let shown := abridge pattern 120
    s!"Rule '{title}' has an invalid pattern `{shown}`: "
  | duplicateRule title => s!"Rule '{title}' is already registered"
  | unknownRule title known =>
    let titles := String.intercalate ", " known
    s!"Unknown rule '{title}' (known rules: {titles})"
  | repeatedOverride title => s!"Rule '{title}' has more than one severity override"
  | unknownSeverity text => severityMessage text
  | badOverride title text =>
    let reason := severityMessage text
    s!"Rule '{title}': {reason}"

end Error

end SqlSmell

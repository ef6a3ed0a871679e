import SqlSmell.Files
import SqlSmell.Settings.Decode

/- Where settings come from: the file in the home directory, then the one in the working directory,
   then the one that was asked for. The last of them that there is decides, but all of them must be
   readable. Rules named by the environment are disabled on top. -/
namespace SqlSmell.Settings

/-- What surrounds a run. -/
structure Environment where
  /-- The home directory. -/
  home : Option String
  /-- Titles of rules to disable, with commas between them. -/
  disabled : Option String

/-- The settings file in the working directory. -/
def localPath : String := ".sql-antipattern.toml"

/-- The settings file in the home directory. -/
def homePath (home : String) : String :=
  let file := ".config/sql-antipattern-analyzer/config.toml"
  if home.isEmpty || home.endsWith "/" then home ++ file else home ++ "/" ++ file

/-- The settings of one file. -/
def ofFile (files : Files) (path : String) : Except Error Settings :=
  match files.readText path with
  | .error cause => .error (.unreadableConfig path cause)
  | .ok document =>
    match ofToml? document with
    | some settings => .ok settings
    | none => .error (.invalidConfig path)

/-- The settings of a file, if there is one. -/
def ofFileIfAny (files : Files) (path : String) (otherwise : Settings) : Except Error Settings :=
  if files.present path then ofFile files path else .ok otherwise

/-- The settings with the rules that the environment disables. -/
def withDisabled (settings : Settings) (disabled : Option String) : Settings :=
  match disabled with
  | none => settings
  | some list => { settings with rules := settings.rules.disable (titleList list) }

/-- The settings of a run. -/
def load (files : Files) (environment : Environment) (explicit : Option String) :
    Except Error Settings := do
  let settings ← match environment.home with
    | none => .ok Settings.default
    | some home => ofFileIfAny files (homePath home) .default
  let settings ← ofFileIfAny files localPath settings
  let settings ← match explicit with
    | none => .ok settings
    | some path => ofFile files path
  return settings.withDisabled environment.disabled

end SqlSmell.Settings

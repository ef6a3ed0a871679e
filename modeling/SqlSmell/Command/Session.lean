import SqlSmell.Command.Check
import SqlSmell.Settings.Load

/- A whole run of the program, from its command line and what surrounds it to what it prints. -/
namespace SqlSmell.Command

/-- What a run can see. -/
structure World where
  files : Files
  stdin : ByteArray
  environment : Settings.Environment
  /-- Can the output show colours? -/
  colours : Bool

/-- How a run ends. -/
structure Ending where
  exitCode : Nat
  stdout : String
  /-- The text of a failure. -/
  failure : Option String

/-- The program and its version. -/
def versionText : String := "sql-antipattern-analyzer 0.1.0\n"

/-- A reminder of the commands. -/
def helpText : String :=
  "Flag schema and query design smells in SQL\n\n" ++
  "Usage: sql-antipattern-analyzer [OPTIONS] <COMMAND>\n\n" ++
  "Commands:\n" ++
  "  check  Check SQL files for anti-patterns\n" ++
  "  rules  List the registered rules\n" ++
  "  help   Print this message or the help of the given subcommand(s)\n\n" ++
  "Options:\n" ++
  "  -c, --config <CONFIG>  Path to a TOML configuration file\n" ++
  "  -h, --help             Print help\n" ++
  "  -V, --version          Print version\n"

/-- The end of a run whose command line leads to none. -/
def Usage.ending : Usage → Ending
  | .help => ⟨0, helpText, none⟩
  | .version => ⟨0, versionText, none⟩
  | _ => ⟨2, "", none⟩

/-- The end of a run that fails. -/
def failed (e : Error) : Ending := ⟨1, "", some e.message⟩

/-- Runs what was asked for. -/
def Invocation.run (i : Invocation) (w : World) : Except Error Ending := do
  let settings ← Settings.load w.files w.environment i.config
  match i.request with
  | .check request =>
    let outcome ← check w.files w.stdin { request with noColor := request.noColor || !w.colours }
      settings
    return ⟨outcome.exitCode, outcome.output, none⟩
  | .rules request =>
    let output ← listRules { request with noColor := request.noColor || !w.colours } settings
    return ⟨0, output, none⟩

/-- A whole run. -/
def run (words : List String) (w : World) : Ending :=
  match parse words with
  | .error usage => usage.ending
  | .ok invocation =>
    match invocation.run w with
    | .ok ending => ending
    | .error e => failed e

/-- The files that a run may read. -/
def Invocation.paths (i : Invocation) (home : Option String) : List String :=
  let inputs := match i.request with
    | .check request => request.inputs.filter (· != "-")
    | .rules _ => []
  (home.map Settings.homePath).toList ++ [Settings.localPath] ++ i.config.toList ++ inputs

/-- Does a run read standard input? -/
def Invocation.readsStdin (i : Invocation) : Bool :=
  match i.request with
  | .check request => request.inputs.contains "-"
  | .rules _ => false

end SqlSmell.Command

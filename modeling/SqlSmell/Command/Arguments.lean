import SqlSmell.Render.Listing
import SqlSmell.Settings.Basic

/- The command line. Words are read from left to right: options, the command, its options and its
   files. The value of an option and the files are only checked when the next option is met, or at
   the end; an option that does not exist is reported before that. -/
namespace SqlSmell.Command

open Render (Format)

/-- Why a command line is refused, or ends without a run. -/
inductive Usage
  /-- There are no words at all, so help is shown. -/
  | nothingGiven
  | help
  | version
  | missingCommand
  | unknownCommand
  /-- An option that does not exist here, or a word that has no place. -/
  | unknownArgument
  /-- An option that can be given once is given again. -/
  | repeatedOption
  /-- A value is missing, empty where it must not be, or none of the possible ones. -/
  | invalidValue
  /-- A value has not the form that is asked for. -/
  | malformedValue
  /-- A flag with a value. -/
  | unwantedValue
deriving DecidableEq, Inhabited

/-- What to check, and how to show it. -/
structure CheckRequest where
  /-- Paths of scripts; `-` is standard input, and so is an empty list. -/
  files : List String
  format : Format
  delimiter : Char
  /-- Hide what is less grave, whatever the settings say. -/
  minSeverity : Option Severity
  /-- Titles of rules to disable. -/
  disable : List String
  verbose : Bool
  noColor : Bool
deriving DecidableEq, Inhabited

/-- How to list the rules. -/
structure RulesRequest where
  format : Format
  verbose : Bool
  noColor : Bool
deriving DecidableEq, Inhabited

/-- What to do. -/
inductive Request
  | check (request : CheckRequest)
  | rules (request : RulesRequest)
deriving DecidableEq, Inhabited

/-- A command line that can be run. -/
structure Invocation where
  /-- A settings file. -/
  config : Option String
  request : Request
deriving DecidableEq, Inhabited

/-! ## Options -/

/-- The options. -/
inductive Switch
  | config
  | format
  | delimiter
  | minSeverity
  | disable
  | verbose
  | noColor
  | help
  | version
deriving DecidableEq

namespace Switch

/-- The name behind two dashes. -/
def long : Switch → String
  | config => "config"
  | format => "output-format"
  | delimiter => "delimiter"
  | minSeverity => "min-severity"
  | disable => "disable"
  | verbose => "verbose"
  | noColor => "no-color"
  | help => "help"
  | version => "version"

/-- The letter behind one dash. -/
def short? : Switch → Option Char
  | config => some 'c'
  | format => some 'f'
  | delimiter => some 'd'
  | verbose => some 'v'
  | help => some 'h'
  | version => some 'V'
  | minSeverity | disable | noColor => none

/-- Does the option take a value? -/
def takesValue : Switch → Bool
  | config | format | delimiter | minSeverity | disable => true
  | verbose | noColor | help | version => false

end Switch

/-- Where on the command line a word stands. -/
inductive Level
  /-- Before the command. -/
  | top
  | check
  | rules
deriving DecidableEq

/-- The options of a level. -/
def Level.switches : Level → List Switch
  | .top => [.config, .help, .version]
  | .check => [.config, .format, .delimiter, .minSeverity, .disable, .verbose, .noColor, .help]
  | .rules => [.config, .format, .verbose, .noColor, .help]

/-- The option of a long name. -/
def Level.byLong? (l : Level) (name : String) : Option Switch :=
  l.switches.find? (fun s => s.long == name)

/-- The option of a letter. -/
def Level.byShort? (l : Level) (letter : Char) : Option Switch :=
  l.switches.find? (fun s => s.short? == some letter)

/-! ## What has been given -/

/-- The options and files met so far on one level. -/
structure Given where
  config : Option String
  format : Option Format
  delimiter : Option Char
  minSeverity : Option Severity
  disable : List String
  verbose : Bool
  noColor : Bool
  files : List String

/-- Nothing so far. -/
def Given.nothing : Given := ⟨none, none, none, none, [], false, false, []⟩

/-- The formats by name. -/
def formatNamed? : String → Option Format
  | "text" => some .text
  | "json" => some .json
  | "yaml" => some .yaml
  | _ => none

/-- The severities by name. -/
def severityNamed? : String → Option Severity
  | "info" => some .info
  | "warn" => some .warning
  | "error" => some .error
  | _ => none

/-- Takes an option, which is not to be given twice, with the value that `decode` makes. -/
def once {α : Type} (before : Option α) (decode : Except Usage α) : Except Usage α :=
  if before.isSome then .error .repeatedOption else decode

/-- A value that must be one of the known ones. -/
def known {α : Type} (v : Option α) : Except Usage α :=
  match v with
  | some a => .ok a
  | none => .error .invalidValue

/-- A path, which is not empty. -/
def path (value : String) : Except Usage String :=
  if value.isEmpty then .error .invalidValue else .ok value

/-- A single character. -/
def character (value : String) : Except Usage Char :=
  match value.toList with
  | [c] => .ok c
  | _ => .error .malformedValue

/-- Takes an option with its value. Titles to disable come with commas between them, and may be
    given several times. -/
def Given.accept (g : Given) (s : Switch) (value : String) : Except Usage Given := do
  match s with
  | .config => return { g with config := some (← once g.config (path value)) }
  | .format => return { g with format := some (← once g.format (known (formatNamed? value))) }
  | .delimiter => return { g with delimiter := some (← once g.delimiter (character value)) }
  | .minSeverity =>
    return { g with minSeverity := some (← once g.minSeverity (known (severityNamed? value))) }
  | .disable => return { g with disable := g.disable ++ splitAtCommas value }
  | .verbose | .noColor | .help | .version => .error .unwantedValue

/-- Takes an option without a value. -/
def Given.raise (g : Given) : Switch → Except Usage Given
  | .verbose => if g.verbose then .error .repeatedOption else .ok { g with verbose := true }
  | .noColor => if g.noColor then .error .repeatedOption else .ok { g with noColor := true }
  | .help => .error .help
  | .version => .error .version
  | .config | .format | .delimiter | .minSeverity | .disable => .error .invalidValue

/-! ## Reading words -/

/-- What has been met and not yet checked. -/
inductive Pending
  | nothing
  /-- An option that waits for its value. -/
  | awaiting (s : Switch)
  | option (s : Switch) (value : String)
  /-- Files, last one first. -/
  | files (paths : List String)

/-- The state between two words. -/
structure Parse where
  given : Given
  pending : Pending

/-- Nothing met so far. -/
def Parse.start : Parse := ⟨.nothing, .nothing⟩

/-- Checks what is pending. -/
def Parse.settle (p : Parse) : Except Usage Given :=
  match p.pending with
  | .nothing => .ok p.given
  | .awaiting _ => .error .invalidValue
  | .option s value => p.given.accept s value
  | .files paths =>
    if paths.any String.isEmpty then .error .invalidValue
    else .ok { p.given with files := p.given.files ++ paths.reverse }

/-- Takes an option with its value, directly behind it. -/
def Parse.accept (p : Parse) (s : Switch) (value : String) : Except Usage Parse := do
  return ⟨← (← p.settle).accept s value, .nothing⟩

/-- Takes an option without a value. -/
def Parse.raise (p : Parse) (s : Switch) : Except Usage Parse := do
  return ⟨← (← p.settle).raise s, .nothing⟩

/-- Takes an option whose value is the next word. -/
def Parse.await (p : Parse) (s : Switch) : Except Usage Parse := do
  return ⟨← p.settle, .awaiting s⟩

/-- Takes a file. -/
def Parse.addFile (p : Parse) (file : String) : Except Usage Parse :=
  match p.pending with
  | .files paths => .ok { p with pending := .files (file :: paths) }
  | _ => do return ⟨← p.settle, .files [file]⟩

/-- Takes a word behind two dashes: a name, or a name and a value with an equals sign between. -/
def Parse.long (l : Level) (p : Parse) (word : List Char) : Except Usage Parse :=
  let name := String.ofList (word.takeWhile (· != '='))
  match l.byLong? name, word.dropWhile (· != '=') with
  | none, _ => .error .unknownArgument
  | some s, [] => if s.takesValue then p.await s else p.raise s
  | some s, _ :: value =>
    if s.takesValue then p.accept s (String.ofList value) else .error .unwantedValue

/-- Takes the letters behind one dash. What follows the letter of an option with a value is that
    value, less an equals sign at its start. -/
def Parse.short (l : Level) (p : Parse) : (letters : List Char) → Except Usage Parse
  | [] => .ok p
  | letter :: more =>
    match l.byShort? letter with
    | none => .error .unknownArgument
    | some s =>
      if s.takesValue then
        match more with
        | [] => p.await s
        | '=' :: value => p.accept s (String.ofList value)
        | value => p.accept s (String.ofList value)
      else do Parse.short l (← p.raise s) more

/-- Takes a word that is no option. Only `check` has files. -/
def Parse.plain (l : Level) (p : Parse) (word : String) : Except Usage Parse :=
  match p.pending with
  | .awaiting s => .ok { p with pending := .option s word }
  | _ =>
    match l with
    | .check => p.addFile word
    | _ => .error .unknownArgument

/-- Takes one word of a command, before any `--`. -/
def Parse.word (l : Level) (p : Parse) (word : String) : Except Usage Parse :=
  match word.toList with
  | '-' :: '-' :: name => p.long l name
  | '-' :: letter :: more => p.short l (letter :: more)
  | _ => p.plain l word

/-- Takes a word behind `--`. -/
def Parse.trailing (l : Level) (p : Parse) (word : String) : Except Usage Parse :=
  match l with
  | .check => p.addFile word
  | _ => .error .unknownArgument

/-- Takes the words of a command. -/
def Parse.words (l : Level) (p : Parse) : (words : List String) → Except Usage Given
  | [] => p.settle
  | "--" :: rest => do (← rest.foldlM (Parse.trailing l) p).settle
  | word :: rest => do Parse.words l (← p.word l word) rest

/-! ## The whole line -/

/-- The commands by name, `help` apart. -/
def commandNamed? : String → Option Level
  | "check" => some .check
  | "rules" => some .rules
  | _ => none

/-- The words behind `help` must lead to a command. -/
def helpOn : (words : List String) → Usage
  | [] => .help
  | ["help"] => .help
  | [name] => if (commandNamed? name).isSome then .help else .unknownCommand
  | _ => .unknownCommand

/-- The request of a check, with the usual values for what is not given. -/
def Given.checkRequest (g : Given) : CheckRequest :=
  ⟨g.files, g.format.getD .text, g.delimiter.getD ';', g.minSeverity, g.disable, g.verbose, g.noColor⟩

/-- The request of a command, with the usual values for what is not given. -/
def Given.request (g : Given) : Level → Request
  | .rules => .rules ⟨g.format.getD .text, g.verbose, g.noColor⟩
  | _ => .check g.checkRequest

/-- The settings file that is given behind the command, or else before it. -/
def laterConfig (before behind : Option String) : Option String :=
  match behind with
  | some path => some path
  | none => before

/-- The line ends without a command. -/
def Parse.noCommand (p : Parse) : Usage :=
  match p.settle with
  | .error e => e
  | .ok given => if given.config.isSome then .missingCommand else .nothingGiven

/-- Takes the words from the first on. -/
def parseTop (p : Parse) : (words : List String) → Except Usage Invocation
  | [] => .error p.noCommand
  | word :: rest =>
    match p.pending, commandNamed? word with
    | .awaiting _, _ => next word rest
    | _, some l => do
      let given ← Parse.words l .start rest
      let before ← p.settle
      return ⟨laterConfig before.config given.config, given.request l⟩
    | _, none => if word == "help" then .error (helpOn rest) else next word rest
where
  /-- Takes a word that is no command. -/
  next (word : String) (rest : List String) : Except Usage Invocation :=
    match word.toList with
    | ['-', '-'] =>
      match rest with
      | [] => .error p.noCommand
      | behind :: _ =>
        if behind == "help" || (commandNamed? behind).isSome then .error .unknownArgument
        else .error .unknownCommand
    | '-' :: '-' :: name => do parseTop (← p.long .top name) rest
    | '-' :: letter :: more => do parseTop (← p.short .top (letter :: more)) rest
    | _ =>
      match p.pending with
      | .awaiting s => parseTop { p with pending := .option s word } rest
      | _ => .error .unknownCommand

/-- Reads a command line, without the name of the program. -/
def parse (words : List String) : Except Usage Invocation := parseTop .start words

end SqlSmell.Command

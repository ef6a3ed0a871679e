import SqlSmell.Settings.Basic
import SqlSmell.Toml.Reader

/- Settings from a TOML document. Keys that mean nothing are passed over, but the numbers under them
   must have a value. A group of settings is a table, or an array that gives them in order; what an
   array holds behind them is not looked at. -/
namespace SqlSmell.Settings

open Toml (Value Entries)

mutual

/-- Has every number in the value a value, and is it in range? -/
def inRange : Value → Bool
  | .integer none => false
  | .integer (some (.ofNat n)) => n < Nat.pow 2 128
  | .integer (some (.negSucc n)) => n < Nat.pow 2 127
  | .float finite => finite
  | .array _ items => allInRange items
  | .table _ entries => entriesInRange entries
  | _ => true

/-- Is every number in the items in range? -/
def allInRange : List Value → Bool
  | [] => true
  | v :: items => inRange v && allInRange items

/-- Is every number in the entries in range? -/
def entriesInRange : List (String × Value) → Bool
  | [] => true
  | (_, v) :: entries => inRange v && entriesInRange entries

end

/-- A text. -/
def text? : Value → Option String
  | .text s => some s
  | _ => none

/-- A list of texts. -/
def texts? : Value → Option (List String)
  | .array _ items => items.mapM text?
  | _ => none

/-- A truth value. -/
def flag? : Value → Option Bool
  | .boolean b => some b
  | _ => none

/-- A size, up to 2⁶⁴ - 1. -/
def size? : Value → Option Nat
  | .integer (some (.ofNat n)) => if n < Nat.pow 2 64 then some n else none
  | _ => none

/-- The key under which a date or time is the only entry of a table. -/
def datetimeKey : String := "$__toml_private_datetime"

/-- Texts by key. -/
def textTable? : Value → Option (List (String × String))
  | .table _ entries => entries.mapM fun (key, v) => (text? v).map fun s => (key, s)
  | .datetime s => some [(datetimeKey, s)]
  | _ => none

/-- The settings of a group by name. In an array they stand in the order of `names`, and what stands
    behind them is not looked at; in a table, entries of other names are passed over. -/
def fields? (names : List String) : Value → Option Entries
  | .array _ items => some (names.zip items)
  | .table _ entries =>
    let (known, unknown) := entries.partition fun e => names.contains e.1
    if unknown.all (fun e => inRange e.2) then some known else none
  | .datetime _ => some []
  | _ => none

/-- A setting that may be missing. -/
def field {α : Type} (entries : Entries) (name : String) (decode : Value → Option α) (default : α) :
    Option α :=
  match entries.get? name with
  | none => some default
  | some v => decode v

/-- A choice of rules. -/
def selection? (v : Value) : Option Selection := do
  let fields ← fields? ["enabled", "disabled", "severity"] v
  return ⟨← field fields "enabled" texts? [], ← field fields "disabled" texts? [],
    ← field fields "severity" textTable? []⟩

/-- How output is to look. -/
def output? (v : Value) : Option OutputSettings := do
  let d := OutputSettings.default
  let fields ← fields? ["verbose", "color", "min_severity", "max_statement_length"] v
  return ⟨← field fields "verbose" flag? d.verbose, ← field fields "color" flag? d.color,
    ← field fields "min_severity" (fun v => (text? v).map some) d.minSeverity,
    ← field fields "max_statement_length" size? d.maxStatementLength⟩

/-- Settings from the text of a document. -/
def ofToml? (document : String) : Option Settings := do
  let entries ← Toml.parse document
  let fields ← fields? ["rules", "output"] (.table .header entries)
  return ⟨← field fields "rules" selection? .all, ← field fields "output" output? .default⟩

end SqlSmell.Settings

/- The values of a TOML document. A table remembers how it was opened, since that decides whether
   later lines may add to it. -/
namespace SqlSmell.Toml

/-- How a table was opened. -/
inductive Opening
  /-- In braces, complete as it stands. -/
  | inline
  /-- By a header of its own, or it is the document. -/
  | header
  /-- By the header of a table inside it. -/
  | implied
  /-- By a dotted key. -/
  | dotted
deriving DecidableEq, Inhabited

/-- A value. -/
inductive Value
  | text (s : String)
  /-- A whole number; none if what is written like one has no value. -/
  | integer (n : Option Int)
  /-- A float; `finite` is false if its digits are too great for 64 bits. -/
  | float (finite : Bool)
  | boolean (b : Bool)
  /-- A date, a time or both, in their canonical form. -/
  | datetime (s : String)
  /-- An array; a growing one is made of tables, one per header. -/
  | array (growing : Bool) (items : List Value)
  | table (opening : Opening) (entries : List (String × Value))
deriving Inhabited

/-- The entries of a table, in order. -/
abbrev Entries := List (String × Value)

namespace Entries

/-- The value of a key. -/
def get? (entries : Entries) (key : String) : Option Value := List.lookup key entries

/-- Sets the value of a key, in its place or at the end. -/
def set (entries : Entries) (key : String) (v : Value) : Entries :=
  if entries.any (fun e => e.1 == key) then
    entries.map fun e => if e.1 == key then (key, v) else e
  else entries ++ [(key, v)]

/-- Changes the last item of a list. -/
def changeLast (f : Value → Option Value) : List Value → Option (List Value)
  | [] => none
  | [v] => do return [← f v]
  | v :: more => do return v :: (← changeLast f more)

/-- Changes what stands under a path of keys. `enter` says which tables the path may go through, and
    `fresh` how a missing one is opened; a growing array stands for its last table. `change` gets
    the opening and the entries of the table at the end. -/
def changeAt (fresh : Opening) (enter : Opening → Bool)
    (change : Opening → Entries → Option (Opening × Entries)) :
    (path : List String) → Opening → Entries → Option (Opening × Entries)
  | [], opening, entries => change opening entries
  | key :: path, opening, entries => do
    let v ← match get? entries key with
      | none => do
        let (opening, inner) ← changeAt fresh enter change path fresh []
        some (.table opening inner)
      | some (.table inside inner) =>
        if enter inside then do
          let (opening, inner) ← changeAt fresh enter change path inside inner
          some (.table opening inner)
        else none
      | some (.array true items) => do
        let items ← changeLast (fun
          | .table inside inner => do
            let (opening, inner) ← changeAt fresh enter change path inside inner
            some (.table opening inner)
          | _ => none) items
        some (.array true items)
      | some _ => none
    return (opening, set entries key v)

/-- Adds a value under a dotted key, whose last part is `key`. The tables on the way are those that
    other dotted keys of the same table have opened. -/
def insert (path : List String) (key : String) (v : Value) (opening : Opening) (entries : Entries) :
    Option (Opening × Entries) :=
  changeAt .dotted (fun o => o == .implied || o == .dotted)
    (fun opening entries =>
      if !path.isEmpty && opening != .dotted then none
      else if (get? entries key).isSome then none
      else some (opening, entries ++ [(key, v)]))
    path opening entries

/-- Opens a table by its header. One that another header implied may still be opened. -/
def openTable (path : List String) (key : String) (entries : Entries) : Option Entries := do
  let (_, entries) ← changeAt .implied (fun o => o != .inline)
    (fun opening entries =>
      match get? entries key with
      | none => some (opening, entries ++ [(key, .table .header [])])
      | some (.table .implied inner) => some (opening, set entries key (.table .header inner))
      | some _ => none)
    path .header entries
  return entries

/-- Opens the next table of a growing array. -/
def openItem (path : List String) (key : String) (entries : Entries) : Option Entries := do
  let (_, entries) ← changeAt .implied (fun o => o != .inline)
    (fun opening entries =>
      match get? entries key with
      | none => some (opening, entries ++ [(key, .array true [.table .header []])])
      | some (.array true items) =>
        some (opening, set entries key (.array true (items ++ [.table .header []])))
      | some _ => none)
    path .header entries
  return entries

/-- Adds a value under a dotted key of the table that the header `path` has opened. -/
def insertBelow (header path : List String) (key : String) (v : Value) (entries : Entries) :
    Option Entries := do
  let (_, entries) ← changeAt .implied (fun _ => true) (insert path key v) header .header entries
  return entries

end Entries

end SqlSmell.Toml

import SqlSmell.Error

/- The files a run can see, as functions from paths. Whether something is found at a path and what reading
   it gives are asked separately: a file that may not be read is found, and a path through a directory
   that may not be searched leads to nothing that is found, although reading it fails for another reason
   than that there is nothing. `ofEntries` is a file tree held in memory, with the directories that its
   paths need. -/
namespace SqlSmell

/-- What a run can see of the files. -/
structure Files where
  /-- Is something found at the path, a file or a directory? -/
  present : String → Bool
  /-- What reading the path gives. -/
  read : String → Except ReadError ByteArray

namespace Files

/-- The text of a file in UTF-8. -/
def readText (files : Files) (path : String) : Except ReadError String :=
  match files.read path with
  | .error e => .error e
  | .ok bytes =>
    match String.fromUTF8? bytes with
    | some text => .ok text
    | none => .error .notUtf8

/-- The names that lead to a path; empty names and single dots lead nowhere, two dots lead back. -/
def names (path : String) : List String :=
  let step (names : List String) (name : String) : List String :=
    if name == "" || name == "." then names
    else if name == ".." then names.dropLast
    else names ++ [name]
  (path.splitOn "/").foldl step []

/-- Does the path ask for a directory? -/
def asksDirectory (path : String) : Bool :=
  match (path.splitOn "/").getLast? with
  | some name => name == "" || name == "." || name == ".."
  | none => false

/-- What reading a path gives in a file tree held in memory. -/
def readEntry (entries : List (String × ByteArray)) (path : String) : Except ReadError ByteArray :=
  if path.isEmpty then .error .missing
  else
    let target := names path
    match entries.find? (fun e => names e.1 == target) with
    | some (_, bytes) => if asksDirectory path then .error .notDirectory else .ok bytes
    | none =>
      if entries.any (fun e => target.isPrefixOf (names e.1)) || target.isEmpty then
        .error .isDirectory
      else if entries.any (fun e => (names e.1).isPrefixOf target) then .error .notDirectory
      else .error .missing

/-- A file tree held in memory. All of it may be read and searched. -/
def ofEntries (entries : List (String × ByteArray)) : Files where
  present path :=
    match readEntry entries path with
    | .error .missing => false
    | .error .notDirectory => false
    | _ => true
  read := readEntry entries

end Files

end SqlSmell

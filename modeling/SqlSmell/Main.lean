import SqlSmell.Command.Session

/- The program. What a run may read is read first; the run itself is a function of it. -/
open SqlSmell Command

/-- What reading a path on disk gives. -/
def readPath (path : String) : IO (Except ReadError ByteArray) := do
  try
    return .ok (← IO.FS.readBinFile path)
  catch
    | .noFileOrDirectory .. => return .error .missing
    | .inappropriateType _ code _ =>
      return .error (if code == 21 then .isDirectory else .notDirectory)
    | e => return .error (.other (toString e))

/-- Is something found at a path on disk? It is, if the path can be followed to its end and what is
    there says what it is. -/
def isPresent (path : String) : IO Bool := do
  try
    let target ← IO.FS.realPath path
    discard target.metadata
    return true
  catch _ => return false

/-- Can standard output show colours? -/
def showsColours : IO Bool := do
  let isOn (name : String) : IO (Option Bool) := do
    return (← IO.getEnv name).map (· != "0")
  if (← isOn "CLICOLOR_FORCE") == some true then return true
  if (← IO.getEnv "NO_COLOR").isSome then return false
  let stdout ← IO.getStdout
  return (← isOn "CLICOLOR").getD true && (← stdout.isTty)

/-- What a run of the invocation can see. -/
def worldOf (invocation : Invocation) : IO World := do
  let home ← IO.getEnv "HOME"
  let entries ← (invocation.paths home).mapM fun path => do
    return (path, ← isPresent path, ← readPath path)
  let present (path : String) : Bool := ((entries.lookup path).map Prod.fst).getD false
  let read (path : String) : Except ReadError ByteArray :=
    ((entries.lookup path).map Prod.snd).getD (.error .missing)
  let stdin ← if invocation.readsStdin then (← IO.getStdin).readBinToEnd else pure .empty
  return ⟨⟨present, read⟩, stdin, ⟨home, ← IO.getEnv "SQL_ANTIPATTERN_DISABLED"⟩, ← showsColours⟩

/-- Runs the program. -/
def main (words : List String) : IO UInt32 := do
  let ending ← match parse words with
    | .error usage => pure usage.ending
    | .ok invocation => do
      let world ← worldOf invocation
      pure (run words world)
  (← IO.getStdout).putStr ending.stdout
  match ending.failure with
  | none => pure ()
  | some message => IO.eprintln ("Error: " ++ message)
  return ending.exitCode.toUInt32

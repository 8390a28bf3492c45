import DirectoryName.CommandLine.Run

open DirectoryName DirectoryName.CommandLine

/-! The program: its words come from the command line, its files from the file system. -/

/-- The fault behind an error of the file system, whose codes come in either sign. -/
def fileFault (error : IO.Error) : FileFault :=
  match error with
  | .noFileOrDirectory .. => .notFound
  | .inappropriateType _ code _ => if code = 20 || code = 0 - 20 then .notDirectory else .isDirectory
  | other => .other (toString other)

def guarded (action : IO α) : IO (Except FileFault α) := do
  try return .ok (← action)
  catch error => return .error (fileFault error)

def fileSystem : Surroundings IO where
  readInput := guarded do return (← (← IO.getStdin).readBinToEnd).toList
  readFile path := guarded do return (← IO.FS.readBinFile path).toList
  writeFile path text := guarded (IO.FS.writeFile path text)
  print text := IO.print text

/-- Tells the standard error stream how a run ended, if not well. -/
def explain (outcome : Outcome) : IO Unit := do
  match outcome with
  | .done => return
  | .failed failure =>
      IO.eprintln ("Error: " ++ failure.message)
      if let some cause := failure.cause? then IO.eprintln ("\nCaused by:\n    " ++ cause)
  | .refused refusal =>
      if let some message := refusal.message? then IO.eprintln ("error: " ++ message)
      IO.eprintln usageText

def main (words : List String) : IO UInt32 := do
  let outcome ← program fileSystem words
  explain outcome
  return outcome.exitCode

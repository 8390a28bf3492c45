import DirectoryName.CommandLine.Run

namespace DirectoryName.CommandLine

/-! A file system in memory, for running commands without side effects.

It holds files, each at a place of its own. Where a path leads is a parameter. In a single
directory it leads to a file there, to the directory itself, or nowhere. -/

/-- Where paths lead: to the place of a file, whether there is one or not. `holds` says at which
places there are files, `creating` that a missing file would be made. -/
structure Paths where
  resolve (holds : String → Bool) (creating : Bool) (path : String) : Except FileFault String
  /-- What files there are may decide how a path fails, but not where it leads. -/
  settled {holds other : String → Bool} {creating create : Bool} {path place : String} :
    resolve holds creating path = .ok place → resolve other create path = .ok place

namespace Paths

/-- The steps of a path without those that stay in place. -/
def steps (path : String) : List String :=
  ((path.toList.splitOn '/').map String.ofList).filter fun step => step != "" && step != "."

/-- A single directory, with nothing outside. A slash at the end asks for a directory. -/
def flat : Paths where
  resolve holds creating path :=
    match path.isEmpty, steps path with
    | true, _ => .error .notFound
    | _, [] => .error .isDirectory
    | _, [name] =>
        if path.toList.head? = some '/' then .error .notFound
        else if name = ".." then .error .isDirectory
        else if 255 < name.utf8ByteSize then .error .nameTooLong
        else if path.toList.getLast? = some '/' then
          .error (
            if holds name then .notDirectory
            else if creating then .isDirectory
            else .notFound)
        else .ok name
    | _, name :: _ :: _ => .error (if holds name then .notDirectory else .notFound)
  settled := by grind

/-- Every path leads to a file of its own, wherever that is. -/
def apart : Paths where
  resolve _ _ path := .ok path
  settled leads := leads

end Paths

structure Workspace where
  /-- The files with their places. -/
  files : List (String × List UInt8)
  /-- The standard input. -/
  input : List UInt8
  /-- What has been printed. -/
  output : String
deriving Repr

namespace Workspace

def content? (workspace : Workspace) (place : String) : Option (List UInt8) :=
  workspace.files.lookup place

/-- The place that a path leads to with the files of the workspace. -/
def resolve (paths : Paths) (workspace : Workspace) (creating : Bool) (path : String) :
    Except FileFault String :=
  paths.resolve (fun place => (workspace.content? place).isSome) creating path

def read (paths : Paths) (workspace : Workspace) (path : String) :
    Except FileFault (List UInt8) :=
  match workspace.resolve paths false path with
  | .error fault => .error fault
  | .ok place =>
      match workspace.content? place with
      | some content => .ok content
      | none => .error .notFound

/-- The workspace in which the file at this place has this content. -/
def put (workspace : Workspace) (place : String) (content : List UInt8) : Workspace :=
  { workspace with files := (place, content) :: workspace.files.filter (·.1 != place) }

def surroundings (paths : Paths) : Surroundings (StateM Workspace) where
  readInput := do return .ok (← get).input
  readFile path := do return (← get).read paths path
  writeFile path text := do
    match (← get).resolve paths true path with
    | .error fault => return .error fault
    | .ok place =>
        modify (·.put place (octetsOf text))
        return .ok ()
  print text := modify fun workspace => { workspace with output := workspace.output ++ text }

/-- Runs a command in the workspace; also returns the workspace that it leaves. -/
def run (paths : Paths) (workspace : Workspace) (invocation : Invocation) :
    Except Failure Unit × Workspace :=
  (CommandLine.run (surroundings paths) invocation).run.run workspace

/-- Runs the program in a single directory; also returns the workspace that it leaves. -/
def runWords (workspace : Workspace) (words : List String) : Outcome × Workspace :=
  (program (surroundings .flat) words).run workspace

end Workspace

end DirectoryName.CommandLine

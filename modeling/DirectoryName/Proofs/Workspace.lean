import DirectoryName.CommandLine.Workspace
import DirectoryName.Proofs.Utf8
import Mathlib.Data.List.Basic

namespace DirectoryName.CommandLine

/-! Reading and writing in a workspace.

A file that was written holds what was written, and every other file is as it was. What is read
is a text exactly if it has the octets of one. The system may refuse any access: then nothing
is read or written, and only the command is told. -/

/-- What a command asks the system for. -/
inductive Access where
  | input
  | reading (path : String)
  | writing (path : String)
deriving DecidableEq, Repr

def Access.ofInput (input : String) : Access :=
  if input = "-" then .input else .reading input

/-- The surroundings when the system refuses some of what it is asked for. -/
def Surroundings.refusing {m : Type → Type} [Monad m] (around : Surroundings m)
    (refused : Access → Option FileFault) : Surroundings m where
  readInput :=
    match refused .input with
    | some fault => return .error fault
    | none => around.readInput
  readFile path :=
    match refused (.reading path) with
    | some fault => return .error fault
    | none => around.readFile path
  writeFile path text :=
    match refused (.writing path) with
    | some fault => return .error fault
    | none => around.writeFile path text
  print := around.print

theorem textOf?_eq_ok_iff {octets : Except FileFault (List UInt8)} {text : String} :
    textOf? octets = .ok text ↔ octets = .ok (octetsOf text) := by
  constructor
  · intro read
    unfold textOf? at read
    split at read
    · cases read
    · split at read
      · next decoded =>
          cases read
          rw [octetsOf_ofList, Utf8.encode_of_decode decoded]
      · cases read
  · rintro rfl
    rw [textOf?, octetsOf, Utf8.decode_encode]
    exact congrArg Except.ok String.ofList_toList

/-- The failure of a command that cannot read its input. -/
def Failure.ofInput (input : String) (fault : FileFault) : Failure :=
  if input = "-" then .inputUnreadable fault else .fileUnreadable input fault

namespace Workspace

variable {paths : Paths} {workspace : Workspace} {refused : Access → Option FileFault}

/-- Where a path leads does not depend on what is there already. -/
theorem resolve_eq_ok {creating : Bool} {path place : String}
    (leads : workspace.resolve paths creating path = .ok place) (other : Workspace)
    (create : Bool) : other.resolve paths create path = .ok place :=
  paths.settled leads

theorem content?_put (workspace : Workspace) (place : String) (content : List UInt8) :
    (workspace.put place content).content? place = some content := by
  rw [content?, put, List.lookup_cons_self]

theorem content?_put_of_ne (workspace : Workspace) {place other : String}
    (differs : other ≠ place) (content : List UInt8) :
    (workspace.put place content).content? other = workspace.content? other := by
  have absent : (other == place) = false := beq_false_of_ne differs
  rw [content?, content?, put, List.lookup_cons, absent]
  dsimp only
  induction workspace.files with
  | nil => rfl
  | cons file files ih =>
      rw [List.filter_cons]
      split
      · rw [List.lookup_cons, List.lookup_cons, ih]
      · next dropped =>
          have same : file.1 = place := by simpa using dropped
          rw [List.lookup_cons, same, absent]
          exact ih

theorem read_put {creating : Bool} {path place : String}
    (leads : workspace.resolve paths creating path = .ok place) (content : List UInt8) :
    (workspace.put place content).read paths path = .ok content := by
  simp only [read, resolve_eq_ok leads, content?_put]

section Input

variable (paths workspace refused)

/-- The octets of an input: of the file, or of the standard input for a lone hyphen. -/
def source (input : String) : Except FileFault (List UInt8) :=
  if input = "-" then .ok workspace.input else workspace.read paths input

/-- The octets that a command gets when it reads its input. -/
def supplied (input : String) : Except FileFault (List UInt8) :=
  match refused (.ofInput input) with
  | some fault => .error fault
  | none => workspace.source paths input

end Input

theorem textOf?_supplied {input text : String}
    (stored : workspace.source paths input = .ok (octetsOf text)) :
    textOf? (workspace.supplied paths (fun _ => none) input) = .ok text := by
  rw [supplied, stored]
  exact textOf?_eq_ok_iff.mpr rfl

section Output

variable (paths workspace refused)

/-- What becomes of a text that is to be written: a file has all of it, or nothing happens. -/
def written (path text : String) : Except FileFault Unit × Workspace :=
  match refused (.writing path), workspace.resolve paths true path with
  | none, .ok place => (.ok (), workspace.put place (octetsOf text))
  | none, .error fault | some fault, _ => (.error fault, workspace)

/-- What becomes of a result: it is printed as a line, or it is written and nothing is
printed. -/
def delivered (output? : Option String) (result : Except Failure String) :
    Except Failure Unit × Workspace :=
  match result, output? with
  | .error failure, _ => (.error failure, workspace)
  | .ok text, none => (.ok (), { workspace with output := workspace.output ++ (text ++ "\n") })
  | .ok text, some path =>
      let (outcome, after) := workspace.written paths refused path text
      (outcome.mapError (.outputUnwritable path), after)

end Output

theorem delivered_ok {path place : String} (granted : refused (.writing path) = none)
    (leads : workspace.resolve paths true path = .ok place) (text : String) :
    workspace.delivered paths refused (some path) (.ok text) =
      (.ok (), workspace.put place (octetsOf text)) := by
  simp only [delivered, written, granted, leads]
  rfl

variable (paths workspace refused)

theorem run_readInput :
    ((surroundings paths).refusing refused).readInput.run workspace =
      pure (workspace.supplied paths refused "-", workspace) := by
  cases refusal : refused .input <;>
    simp [Surroundings.refusing, refusal, surroundings, supplied, Access.ofInput, source]

theorem run_readFile {input : String} (file : input ≠ "-") :
    (((surroundings paths).refusing refused).readFile input).run workspace =
      pure (workspace.supplied paths refused input, workspace) := by
  cases refusal : refused (.reading input) <;>
    simp [Surroundings.refusing, refusal, surroundings, supplied, Access.ofInput, source, file]

theorem run_readText (input : String) :
    (readText ((surroundings paths).refusing refused) input).run.run workspace =
      pure ((textOf? (workspace.supplied paths refused input)).mapError (Failure.ofInput input),
        workspace) := by
  by_cases hyphen : input = "-"
  · subst hyphen
    have found := run_readInput paths workspace refused
    cases octets : textOf? (workspace.supplied paths refused "-") <;>
      simp [readText, ExceptT.run_bind, found, octets, Failure.ofInput, Except.mapError]
  · have found := run_readFile paths workspace refused hyphen
    cases octets : textOf? (workspace.supplied paths refused input) <;>
      simp [readText, hyphen, ExceptT.run_bind, found, octets, Failure.ofInput, Except.mapError]

theorem run_writeFile (path text : String) :
    (((surroundings paths).refusing refused).writeFile path text).run workspace =
      pure (workspace.written paths refused path text) := by
  cases refusal : refused (.writing path) with
  | some fault => simp [Surroundings.refusing, written, refusal]
  | none =>
      cases leads : workspace.resolve paths true path <;>
        simp [Surroundings.refusing, surroundings, written, refusal, leads]

theorem run_deliver (output? : Option String) (text : String) :
    (deliver ((surroundings paths).refusing refused) output? text).run.run workspace =
      pure (workspace.delivered paths refused output? (.ok text)) := by
  cases output? with
  | none => rfl
  | some path =>
      have found := run_writeFile paths workspace refused path text
      rw [delivered]
      generalize workspace.written paths refused path text = ending at found ⊢
      obtain ⟨outcome, after⟩ := ending
      cases outcome <;> simp [deliver, ExceptT.run_bind, found, Except.mapError]

theorem run_liftExcept_deliver (output? : Option String) (result : Except Failure String) :
    (run.liftExcept result >>= deliver ((surroundings paths).refusing refused) output?).run.run
        workspace = pure (workspace.delivered paths refused output? result) := by
  cases result with
  | error failure => rfl
  | ok text => exact run_deliver paths workspace refused output? text

/-- Runs a command in the workspace when the system refuses some of what it asks for. -/
def runRefusing (invocation : Invocation) : Except Failure Unit × Workspace :=
  (CommandLine.run ((surroundings paths).refusing refused) invocation).run.run workspace

theorem run_eq_runRefusing (invocation : Invocation) :
    workspace.run paths invocation = workspace.runRefusing paths (fun _ => none) invocation :=
  rfl

theorem runRefusing_parse (name : String) (output? : Option String) (pretty : Bool)
    (flags : NameFlags) :
    workspace.runRefusing paths refused ⟨.parse name output? pretty, flags⟩ =
      workspace.delivered paths refused output? (parsed name flags pretty) :=
  run_liftExcept_deliver paths workspace refused output? _

theorem runRefusing_explode (name : String) (output? : Option String)
    (valuesOnly firstRdn : Bool) (flags : NameFlags) :
    workspace.runRefusing paths refused ⟨.explode name valuesOnly firstRdn output?, flags⟩ =
      workspace.delivered paths refused output? (exploded name valuesOnly firstRdn flags) :=
  run_liftExcept_deliver paths workspace refused output? _

/-- What the build command makes of its input. -/
def builtFrom (input : String) (flags : NameFlags) : Except Failure String :=
  match textOf? (workspace.supplied paths refused input) with
  | .error fault => .error (.ofInput input fault)
  | .ok text => built text flags

theorem runRefusing_build (input : String) (output? : Option String) (flags : NameFlags) :
    workspace.runRefusing paths refused ⟨.build input output?, flags⟩ =
      workspace.delivered paths refused output?
        (workspace.builtFrom paths refused input flags) := by
  rw [runRefusing, CommandLine.run]
  simp only [ExceptT.run_bind, StateT.run_bind, run_readText, builtFrom, pure_bind]
  cases textOf? (workspace.supplied paths refused input) with
  | error fault => rfl
  | ok text => exact run_liftExcept_deliver paths workspace refused output? _

end Workspace

end DirectoryName.CommandLine

import DirectoryName.Check
import DirectoryName.CommandLine.Invocation
import DirectoryName.Comparator
import DirectoryName.Explode
import DirectoryName.Json.Assembly
import DirectoryName.Json.Layout
import DirectoryName.Shape
import DirectoryName.Utf8

namespace DirectoryName.CommandLine

/-! What the commands do.

A command reads at most one input, works out its result, and only then writes. What
surrounds it, files and standard streams, is a parameter. -/

inductive FileFault where
  | notFound
  | notDirectory
  | isDirectory
  | nameTooLong
  /-- The file's octets are no text. -/
  | notText
  | other (message : String)
deriving DecidableEq, Repr

def FileFault.message : FileFault → String
  | .notFound => "No such file or directory (os error 2)"
  | .notDirectory => "Not a directory (os error 20)"
  | .isDirectory => "Is a directory (os error 21)"
  | .nameTooLong => "File name too long (os error 36)"
  | .notText => "stream did not contain valid UTF-8"
  | .other message => message

inductive Failure where
  | inputUnreadable (fault : FileFault)
  | fileUnreadable (path : String) (fault : FileFault)
  | notJson
  | notParsed (name : String) (error : NameError)
  | notBuilt (error : NameError)
  | notExploded (name : String) (error : NameError)
  | outputUnwritable (path : String) (fault : FileFault)
  | reportUnwritable (path : String) (fault : FileFault)
  | linesInvalid (count : Nat) (input : String)
  | namesDiffer
deriving DecidableEq, Repr

namespace Failure

def message : Failure → String
  | .inputUnreadable _ => "Failed to read stdin"
  | .fileUnreadable path _ => "Failed to read input file: " ++ path
  | .notJson => "Failed to parse JSON input"
  | .notParsed name _ => "Failed to parse DN: " ++ Text.quoted name
  | .notBuilt _ => "Failed to build DN"
  | .notExploded name _ => "Failed to explode DN: " ++ Text.quoted name
  | .outputUnwritable path _ => "Failed to write output file: " ++ path
  | .reportUnwritable path _ => "Failed to write report: " ++ path
  | .linesInvalid count input => toString count ++ " invalid DNs in " ++ input
  | .namesDiffer => "DNs differ"

def cause? : Failure → Option String
  | .inputUnreadable fault | .fileUnreadable _ fault | .outputUnwritable _ fault
  | .reportUnwritable _ fault => some fault.message
  | .notParsed _ error | .notBuilt error | .notExploded _ error => some error.message
  | .notJson | .linesInvalid _ _ | .namesDiffer => none

end Failure

/-- The files and standard streams around a command. -/
structure Surroundings (m : Type → Type) where
  readInput : m (Except FileFault (List UInt8))
  readFile : String → m (Except FileFault (List UInt8))
  writeFile : String → String → m (Except FileFault Unit)
  print : String → m Unit

section

variable {m : Type → Type} [Monad m]

/-- The text of octets that were read. -/
def textOf? (octets : Except FileFault (List UInt8)) : Except FileFault String :=
  match octets with
  | .error fault => .error fault
  | .ok octets =>
      match Utf8.decode octets with
      | .ok text => .ok (String.ofList text)
      | .error _ => .error .notText

/-- The text of a file, or of the standard input for a lone hyphen. -/
def readText (around : Surroundings m) (input : String) : ExceptT Failure m String := do
  if input = "-" then
    match textOf? (← around.readInput) with
    | .ok text => return text
    | .error fault => throw (.inputUnreadable fault)
  else
    match textOf? (← around.readFile input) with
    | .ok text => return text
    | .error fault => throw (.fileUnreadable input fault)

/-- Writes a result to a file, or prints it as a line. -/
def deliver (around : Surroundings m) (output? : Option String) (text : String) :
    ExceptT Failure m Unit := do
  match output? with
  | none => around.print (text ++ "\n")
  | some path =>
      match ← around.writeFile path text with
      | .ok _ => return
      | .error fault => throw (.outputUnwritable path fault)

/-- The result of a step that may fail, as the failure of a command. -/
def orFail (result : Except NameError α) (failure : NameError → Failure) :
    ExceptT Failure m α :=
  match result with
  | .ok value => return value
  | .error error => throw (failure error)

def parsed (name : String) (flags : NameFlags) (pretty : Bool) : Except Failure String :=
  match Dn.parseText name flags with
  | .error error => .error (.notParsed name error)
  | .ok dn => .ok (if pretty then dn.toJson.pretty else dn.toJson.compact)

def built (text : String) (flags : NameFlags) : Except Failure String :=
  match Json.read? Json.maxDepth text with
  | none => .error .notJson
  | some value => (Dn.buildJson value flags).mapError .notBuilt

/-- The parts of the name that a text spells, one to a line. -/
def exploded (name : String) (valuesOnly firstRdn : Bool) (flags : NameFlags) :
    Except Failure String :=
  let parts :=
    if firstRdn then Dn.explodeRdn name valuesOnly flags else Dn.explode name valuesOnly flags
  match parts with
  | .ok parts => .ok ("\n".intercalate parts)
  | .error error => .error (.notExploded name error)

def runCheck (around : Surroundings m) (input : String) (failOnInvalid : Bool)
    (report? : Option String) (flags : NameFlags) : ExceptT Failure m Unit := do
  let summary := CheckSummary.ofText (← readText around input) flags
  around.print summary.report
  if let some path := report? then
    if let .error fault ← around.writeFile path summary.toJson.pretty then
      throw (.reportUnwritable path fault)
  if failOnInvalid && !summary.invalid.isEmpty then
    throw (.linesInvalid summary.invalid.length input)

def runCompare (around : Surroundings m) (left right : String) (folded : List String)
    (flags : NameFlags) : ExceptT Failure m Unit := do
  let leftName ← orFail (Dn.parseText left flags) (.notParsed left)
  let rightName ← orFail (Dn.parseText right flags) (.notParsed right)
  if (Comparator.folding folded).equal leftName rightName then
    around.print "✓ DNs are equal\n"
  else
    around.print "✗ DNs differ\n"
    throw .namesDiffer

def run (around : Surroundings m) (invocation : Invocation) : ExceptT Failure m Unit := do
  match invocation.command with
  | .parse name output? pretty =>
      deliver around output? (← liftExcept (parsed name invocation.flags pretty))
  | .build input output? =>
      deliver around output? (← liftExcept (built (← readText around input) invocation.flags))
  | .explode name valuesOnly firstRdn output? =>
      deliver around output? (← liftExcept (exploded name valuesOnly firstRdn invocation.flags))
  | .check input failOnInvalid report? =>
      runCheck around input failOnInvalid report? invocation.flags
  | .compare left right folded => runCompare around left right folded invocation.flags
where
  liftExcept {α : Type} (result : Except Failure α) : ExceptT Failure m α :=
    ExceptT.mk (pure result)

inductive Outcome where
  | done
  | failed (failure : Failure)
  | refused (refusal : Refusal)
deriving DecidableEq, Repr

def Outcome.exitCode : Outcome → UInt32
  | .done => 0
  | .failed _ => 1
  | .refused _ => 2

def versionText : String := "dnkit 0.1.0"

def usageText : String := "Usage: dnkit [OPTIONS] <parse|build|explode|check|compare>"

def program (around : Surroundings m) (words : List String) : m Outcome := do
  match readInvocation words with
  | .error .versionAsked =>
      around.print (versionText ++ "\n")
      return .done
  | .error .helpAsked =>
      around.print (usageText ++ "\n")
      return .done
  | .error refusal => return .refused refusal
  | .ok invocation =>
      match ← (run around invocation).run with
      | .ok _ => return .done
      | .error failure => return .failed failure

end

end DirectoryName.CommandLine

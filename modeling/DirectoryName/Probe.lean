import DirectoryName.Json.Assembly
import DirectoryName.Reading.Name
import DirectoryName.Shape
import DirectoryName.Writing

namespace DirectoryName

/-! Probing the readers and writers with arbitrary input.

What is read in a notation has to be writable in it, and what is written has to be
readable again; a fault says where that failed. -/

inductive ProbeFault where
  | notWritable (error : NameError)
  | notReadable (text : String) (error : NameError)
deriving DecidableEq, Repr

def ProbeFault.message : ProbeFault → String
  | .notWritable error => "parsed DN failed to build: " ++ error.message
  | .notReadable text error =>
      "rebuilt DN " ++ Text.quoted text ++ " failed to parse: " ++ error.message

namespace Probe

/-- Reads, writes and reads again under one flag word. -/
def fault? (input : List UInt8) (flags : NameFlags) : Option ProbeFault :=
  match Dn.parse input flags with
  | .error _ => none
  | .ok name =>
      match name.build flags with
      | .error error => some (.notWritable error)
      | .ok text =>
          match Dn.parseText text flags with
          | .error error => some (.notReadable text error)
          | .ok _ => none

/-- The first fault over the notations that are both written and read. -/
def names (input : List UInt8) : Option ProbeFault :=
  (Notation.all.filter Notation.isReadable).findSome? fun form => fault? input (.ofFormat form)

/-- What becomes, in each notation, of the name that the octets give as JSON text. -/
def values (input : List UInt8) : List (Except NameError String) :=
  match Utf8.decode input with
  | .error _ => []
  | .ok text =>
      match Json.read? Json.maxDepth (String.ofList text) with
      | none => []
      | some value =>
          Notation.all.map fun form => Dn.buildJson value (.ofFormat form)

end Probe

end DirectoryName

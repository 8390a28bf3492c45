import DirectoryName.Json
import DirectoryName.Name
import DirectoryName.Writing

namespace DirectoryName

/-! Names given as loosely typed values.

A name is an array of non-empty arrays of triples; a triple is an array that begins
with two strings and a natural number below 2^32. The value is checked from left to
right, and the first thing that does not fit is reported with its place. -/

namespace Shape

/-- Reads the items of an array, each with its index, up to the first misfit. -/
def readEach (read : Nat → Json → Except Misfit α) (index : Nat) (items : List Json) :
    Except Misfit (List α) :=
  match items with
  | [] => .ok []
  | first :: rest =>
      match read index first with
      | .error misfit => .error misfit
      | .ok value =>
          match readEach read (index + 1) rest with
          | .error misfit => .error misfit
          | .ok values => .ok (value :: values)

def readText (rdn ava field : Nat) (value : Json) : Except Misfit String :=
  match value with
  | .scalar (.string text) => .ok text
  | other => .error (.notText rdn ava field other.kind)

def readFlags (rdn ava : Nat) (value : Json) : Except Misfit UInt32 :=
  match value with
  | .scalar (.natural number) =>
      if number < UInt32.size then .ok number.toUInt32 else .error (.notFlags rdn ava .number)
  | other => .error (.notFlags rdn ava other.kind)

/-- An assertion; elements after the third are passed over. -/
def readAva (rdn ava : Nat) (value : Json) : Except Misfit Ava :=
  match value with
  | .array (type :: text :: flags :: _) => do
      let type ← readText rdn ava 0 type
      let text ← readText rdn ava 1 text
      let flags ← readFlags rdn ava flags
      return .ofTriple (type, text, flags)
  | .array items => .error (.shortTriple rdn ava items.length)
  | other => .error (.notTriple rdn ava other.kind)

def readRdn (rdn : Nat) (value : Json) : Except Misfit Rdn :=
  match value with
  | .array [] => .error (.emptyRdn rdn)
  | .array (first :: others) => do
      let first ← readAva rdn 0 first
      let others ← readEach (readAva rdn) 1 others
      return ⟨first, others⟩
  | other => .error (.notRdn rdn other.kind)

def readName (value : Json) : Except Misfit Dn :=
  match value with
  | .array rdns => (readEach readRdn 0 rdns).map Dn.mk
  | other => .error (.notRdns other.kind)

end Shape

namespace Dn

def ofJson (value : Json) : Except NameError Dn :=
  (Shape.readName value).mapError .badShape

def toJson (name : Dn) : Json :=
  .array (name.triples.map fun rdn =>
    .array (rdn.map fun (type, value, flags) =>
      .array [.string type, .string value, .natural flags.toNat]))

def buildJson (value : Json) (flags : NameFlags) : Except NameError String :=
  match ofJson value with
  | .ok name => name.build flags
  | .error error => .error error

end Dn

end DirectoryName

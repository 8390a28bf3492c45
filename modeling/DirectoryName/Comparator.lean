import DirectoryName.Reading.Name
import DirectoryName.Text.LetterCase

namespace DirectoryName

/-! Equality of names.

Types compare without regard to ASCII case, the order of a component's assertions
does not matter, and the values of registered types compare without regard to
letter case. Two names are equal when their canonical forms are. -/

namespace Ava

/-- Sorting order of canonical assertions: by type, then value, then flags. -/
def ordered (left right : Ava) : Bool :=
  if left.type = right.type then
    if left.value = right.value then left.flags.bits ≤ right.flags.bits
    else left.value < right.value
  else left.type < right.type

end Ava

/-- The types whose values compare without regard to case, in lowercase. -/
structure Comparator where
  folded : List String
deriving Repr

namespace Comparator

def exact : Comparator := ⟨[]⟩

def register (comparator : Comparator) (type : String) : Comparator :=
  ⟨Text.asciiLower type :: comparator.folded⟩

def folding (types : List String) : Comparator :=
  types.foldl register exact

def folds (comparator : Comparator) (type : String) : Bool :=
  comparator.folded.contains (Text.asciiLower type)

/-- The assertion with its type in lowercase, and its value too if its type is registered. -/
def foldAva (comparator : Comparator) (ava : Ava) : Ava where
  type := Text.asciiLower ava.type
  value := if comparator.folds ava.type then Text.lower ava.value else ava.value
  flags := ava.flags

/-- The folded assertions of each component, sorted. -/
def normalize (comparator : Comparator) (name : Dn) : List (List Ava) :=
  name.rdns.map fun rdn => (rdn.avas.map comparator.foldAva).mergeSort Ava.ordered

def equal (comparator : Comparator) (left right : Dn) : Bool :=
  left.rdns.length == right.rdns.length &&
    comparator.normalize left == comparator.normalize right

/-- Equality of the names that two texts spell in the permissive notation. -/
def compare (comparator : Comparator) (left right : String) : Except NameError Bool := do
  let left ← Dn.parseText left .default
  let right ← Dn.parseText right .default
  return comparator.equal left right

end Comparator

end DirectoryName

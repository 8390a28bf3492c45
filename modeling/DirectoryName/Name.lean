import DirectoryName.AttributeType
import DirectoryName.Error
import DirectoryName.Flags

namespace DirectoryName

/-! Distinguished names.

A name is a list of components, the most specific first; a component is a
non-empty list of assertions. The empty list of components is the root. -/

/-- A type, a value and how the value is written, as handed in and out. -/
abbrev Triple := String × String × UInt32

/-- An attribute value assertion: one `type=value`. -/
structure Ava where
  type : String
  value : String
  flags : ValueFlags
deriving DecidableEq, Repr

namespace Ava

def ofTriple (triple : Triple) : Ava where
  type := triple.1
  value := triple.2.1
  flags := ValueFlags.visible ⟨triple.2.2⟩

def triple (ava : Ava) : Triple :=
  (ava.type, ava.value, ava.flags.visible.bits)

def string (type value : String) : Ava where
  type := type
  value := value
  flags := .string

/-- Why the assertion cannot be written. -/
def fault? (ava : Ava) : Option EncodingFault :=
  if !isAttributeType ava.type then some (.invalidType ava.type)
  else if ava.flags.isBinary && ava.value.isEmpty then some (.emptyBinary ava.type)
  else none

end Ava

/-- A relative distinguished name: at least one assertion, in order. -/
structure Rdn where
  first : Ava
  others : List Ava
deriving DecidableEq, Repr

namespace Rdn

def avas (rdn : Rdn) : List Ava :=
  rdn.first :: rdn.others

def ofAvas? (avas : List Ava) : Option Rdn :=
  match avas with
  | [] => none
  | first :: others => some ⟨first, others⟩

def isMultiValued (rdn : Rdn) : Bool :=
  !rdn.others.isEmpty

end Rdn

structure Dn where
  rdns : List Rdn
deriving DecidableEq, Repr

namespace Dn

def root : Dn := ⟨[]⟩

/-- A name from lists of assertions; a component needs at least one. -/
def ofAvas (rdns : List (List Ava)) : Except NameError Dn :=
  match rdns.mapM Rdn.ofAvas? with
  | some rdns => .ok ⟨rdns⟩
  | none => .error (.badName .emptyRdn)

def ofTriples (rdns : List (List Triple)) : Except NameError Dn :=
  ofAvas (rdns.map (·.map Ava.ofTriple))

def triples (name : Dn) : List (List Triple) :=
  name.rdns.map (·.avas.map Ava.triple)

/-- The name one component up; the root has none. -/
def parent? (name : Dn) : Option Dn :=
  match name.rdns with
  | [] => none
  | _ :: rest => some ⟨rest⟩

/-- Whether the name is `base` or lies under it. -/
def isAtOrBelow (name base : Dn) : Bool :=
  base.rdns.isSuffixOf name.rdns

/-- The first assertion that cannot be written, in order. -/
def fault? (name : Dn) : Option EncodingFault :=
  name.rdns.findSome? (·.avas.findSome? Ava.fault?)

def validate (name : Dn) : Except NameError Unit :=
  match name.fault? with
  | some fault => .error (.badName fault)
  | none => .ok ()

end Dn

end DirectoryName

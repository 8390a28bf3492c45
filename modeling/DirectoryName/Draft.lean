import DirectoryName.Name

namespace DirectoryName

/-! Names under construction: components that have not been checked yet. -/

structure Draft where
  rdns : List (List Ava)
deriving DecidableEq, Repr

namespace Draft

def empty : Draft := ⟨[]⟩

/-- Appends a component; components come most specific first. -/
def rdn (draft : Draft) (avas : List Ava) : Draft :=
  ⟨draft.rdns ++ [avas]⟩

def ava (draft : Draft) (type value : String) : Draft :=
  draft.rdn [Ava.string type value]

/-- Appends the components of a finished name. -/
def suffix (draft : Draft) (name : Dn) : Draft :=
  ⟨draft.rdns ++ name.rdns.map Rdn.avas⟩

/-- The finished name; no component may be empty, and every assertion has to be writable. -/
def finish (draft : Draft) : Except NameError Dn := do
  let name ← Dn.ofAvas draft.rdns
  name.validate
  return name

end Draft

end DirectoryName

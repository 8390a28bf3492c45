import DirectoryName.Json
import DirectoryName.Name

namespace DirectoryName

/-! Typed values as JSON.

A codec writes every value of a type and reads back exactly the form it writes: a
triple has three elements, no more. The codec of names is put together from those of
their parts. -/

/-- A JSON form for the values of a type. -/
structure Codec (α : Type) where
  encode : α → Json
  decode? : Json → Option α

namespace Codec

def text : Codec String where
  encode := Json.string
  decode?
    | .scalar (.string value) => some value
    | _ => none

def word : Codec UInt32 where
  encode value := .natural value.toNat
  decode?
    | .scalar (.natural value) => if value < UInt32.size then some value.toUInt32 else none
    | _ => none

def list (item : Codec α) : Codec (List α) where
  encode values := .array (values.map item.encode)
  decode?
    | .array items => items.mapM item.decode?
    | _ => none

def triple (first : Codec α) (second : Codec β) (third : Codec γ) : Codec (α × β × γ) where
  encode value := .array [first.encode value.1, second.encode value.2.1, third.encode value.2.2]
  decode?
    | .array [a, b, c] => do return (← first.decode? a, ← second.decode? b, ← third.decode? c)
    | _ => none

/-- The codec of a type whose values are represented by those of another. -/
def via (codec : Codec α) (represent : β → α) (restore? : α → Option β) : Codec β where
  encode value := codec.encode (represent value)
  decode? value := (codec.decode? value).bind restore?

end Codec

def Ava.codec : Codec Ava :=
  (Codec.triple .text .text .word).via Ava.triple fun triple => some (.ofTriple triple)

def Rdn.codec : Codec Rdn :=
  (Codec.list Ava.codec).via Rdn.avas Rdn.ofAvas?

def Dn.codec : Codec Dn :=
  (Codec.list Rdn.codec).via Dn.rdns fun rdns => some ⟨rdns⟩

end DirectoryName

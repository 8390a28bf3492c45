import DirectoryName.Escape
import DirectoryName.Reading.Name

namespace DirectoryName

/-! Taking a written name apart.

The parts are written anew, as LDAP text without hexadecimal strings or pairs,
whatever notation the name came in. -/

namespace Ava

/-- The assertion with its value escaped, or the escaped value alone. -/
def part (valuesOnly : Bool) (ava : Ava) : String :=
  if valuesOnly then escapeValue ava.value else ava.type ++ "=" ++ escapeValue ava.value

end Ava

namespace Rdn

def part (valuesOnly : Bool) (rdn : Rdn) : String :=
  "+".intercalate (rdn.avas.map (Ava.part valuesOnly))

/-- The assertions one by one; values alone are not escaped. -/
def parts (valuesOnly : Bool) (rdn : Rdn) : List String :=
  if valuesOnly then rdn.avas.map Ava.value else rdn.avas.map (Ava.part false)

end Rdn

namespace Dn

/-- One part for each component of the name that `input` spells. The empty text has
no parts, whatever the flags. -/
def explode (input : String) (valuesOnly : Bool) (flags : NameFlags) :
    Except NameError (List String) :=
  if input.isEmpty then .ok []
  else (parseText input flags).map fun name => name.rdns.map (Rdn.part valuesOnly)

/-- One part for each assertion in the first component. -/
def explodeRdn (input : String) (valuesOnly : Bool) (flags : NameFlags) :
    Except NameError (List String) :=
  if input.isEmpty then .ok []
  else
    (parseText input flags).map fun name =>
      match name.rdns with
      | [] => []
      | first :: _ => first.parts valuesOnly

end Dn

end DirectoryName

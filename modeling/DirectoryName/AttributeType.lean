import DirectoryName.Octet
import DirectoryName.Utf8

namespace DirectoryName

/-! Attribute types: descriptors such as `cn` and dotted numbers such as `2.5.4.3`. -/

namespace AttributeType

/-- A letter, then letters, digits and hyphens. -/
def isDescriptor (octets : List UInt8) : Bool :=
  match octets with
  | [] => false
  | first :: rest => Octet.isLetter first && rest.all Octet.isKeyOctet

/-- At least two non-empty runs of digits, separated by single dots. -/
def isNumericOid (octets : List UInt8) : Bool :=
  let arcs := octets.splitOn Octet.dot
  2 ≤ arcs.length && arcs.all fun arc => !arc.isEmpty && arc.all Octet.isDigit

end AttributeType

def isAttributeType (text : String) : Bool :=
  AttributeType.isDescriptor (octetsOf text) || AttributeType.isNumericOid (octetsOf text)

end DirectoryName

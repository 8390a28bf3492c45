namespace DirectoryName

/-! Octets of a written name.

A written name is a list of octets. The readers look at single octets only, so
everything they distinguish is named here: the delimiters, the three ASCII
classes, and the hexadecimal digits. -/

namespace Octet

def space : UInt8 := 0x20
def quote : UInt8 := 0x22
def hash : UInt8 := 0x23
def plus : UInt8 := 0x2B
def comma : UInt8 := 0x2C
def hyphen : UInt8 := 0x2D
def dot : UInt8 := 0x2E
def slash : UInt8 := 0x2F
def semicolon : UInt8 := 0x3B
def less : UInt8 := 0x3C
def equals : UInt8 := 0x3D
def greater : UInt8 := 0x3E
def backslash : UInt8 := 0x5C

def isDigit (octet : UInt8) : Bool :=
  0x30 ≤ octet && octet ≤ 0x39

def isUpper (octet : UInt8) : Bool :=
  0x41 ≤ octet && octet ≤ 0x5A

def isLower (octet : UInt8) : Bool :=
  0x61 ≤ octet && octet ≤ 0x7A

def isLetter (octet : UInt8) : Bool :=
  isUpper octet || isLower octet

/-- A letter, a digit or a hyphen: what may follow the first letter of a descriptor. -/
def isKeyOctet (octet : UInt8) : Bool :=
  isLetter octet || isDigit octet || octet == hyphen

/-- Printable ASCII, from the space to the tilde. -/
def isPrintable (octet : UInt8) : Bool :=
  0x20 ≤ octet && octet ≤ 0x7E

def hexValue? (octet : UInt8) : Option UInt8 :=
  if isDigit octet then some (octet - 0x30)
  else if 0x61 ≤ octet && octet ≤ 0x66 then some (octet - 0x61 + 10)
  else if 0x41 ≤ octet && octet ≤ 0x46 then some (octet - 0x41 + 10)
  else none

/-- The octet that two hexadecimal digits denote, the high one first. -/
def ofNibbles (high low : UInt8) : UInt8 :=
  high * 16 + low

/-- The lowercase hexadecimal digit of a value below sixteen. -/
def hexDigit (value : UInt8) : Char :=
  if value < 10 then Char.ofNat (0x30 + value.toNat) else Char.ofNat (0x61 + (value.toNat - 10))

def hexPair (octet : UInt8) : List Char :=
  [hexDigit (octet / 16), hexDigit (octet % 16)]

/-- The character whose code point is the octet's value. -/
def toChar (octet : UInt8) : Char :=
  Char.ofNat octet.toNat

/-- The text whose code points are the octets' values; for ASCII octets this is
the text they encode. -/
def textOf (octets : List UInt8) : String :=
  String.ofList (octets.map toChar)

end Octet

end DirectoryName

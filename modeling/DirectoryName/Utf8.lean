namespace DirectoryName.Utf8

/-! UTF-8 between lists of octets and lists of characters.

`decode` either yields the whole text or counts the octets of the longest
decodable beginning, which is where the first malformed sequence starts. -/

/-- An octet that may stand after the first octet of a sequence. -/
def isTail (octet : UInt8) : Bool :=
  0x80 ≤ octet && octet ≤ 0xBF

/-- The six bits that a tail octet contributes. -/
def tailBits (octet : UInt8) : Nat :=
  octet.toNat - 0x80

/-- The sequence length that a first octet announces; overlong leads and those
above U+10FFFF announce nothing. -/
def announced (lead : UInt8) : Option Nat :=
  if lead < 0x80 then some 1
  else if 0xC2 ≤ lead && lead ≤ 0xDF then some 2
  else if 0xE0 ≤ lead && lead ≤ 0xEF then some 3
  else if 0xF0 ≤ lead && lead ≤ 0xF4 then some 4
  else none

/-- The code points that a sequence of the given length may denote: none that a
shorter sequence denotes, no surrogate, none above U+10FFFF. -/
def allowed (length code : Nat) : Bool :=
  match length with
  | 3 => 0x800 ≤ code && !(0xD800 ≤ code && code ≤ 0xDFFF)
  | 4 => 0x10000 ≤ code && code ≤ 0x10FFFF
  | _ => true

/-- The character at the front and the octets after it. -/
def decodeChar? (octets : List UInt8) : Option (Char × List UInt8) :=
  match octets with
  | [] => none
  | lead :: rest =>
      match announced lead, rest with
      | some 1, _ => some (Char.ofNat lead.toNat, rest)
      | some 2, a :: rest =>
          let code := (lead.toNat - 0xC0) * 0x40 + tailBits a
          if isTail a then some (Char.ofNat code, rest) else none
      | some 3, a :: b :: rest =>
          let code := (lead.toNat - 0xE0) * 0x1000 + tailBits a * 0x40 + tailBits b
          if isTail a && isTail b && allowed 3 code then some (Char.ofNat code, rest) else none
      | some 4, a :: b :: c :: rest =>
          let code := (lead.toNat - 0xF0) * 0x40000 + tailBits a * 0x1000 +
            tailBits b * 0x40 + tailBits c
          if isTail a && isTail b && isTail c && allowed 4 code then
            some (Char.ofNat code, rest)
          else none
      | _, _ => none

theorem decodeChar?_shorter {octets rest : List UInt8} {found : Char}
    (decoded : decodeChar? octets = some (found, rest)) : rest.length < octets.length := by
  unfold decodeChar? at decoded
  grind

/-- The characters of well-formed octets, or the number of octets before the
first malformed sequence. -/
def decode (octets : List UInt8) : Except Nat (List Char) :=
  match octets with
  | [] => .ok []
  | lead :: rest =>
      match _decoded : decodeChar? (lead :: rest) with
      | none => .error 0
      | some (first, remaining) =>
          match decode remaining with
          | .ok others => .ok (first :: others)
          | .error good => .error ((lead :: rest).length - remaining.length + good)
termination_by octets.length
decreasing_by exact decodeChar?_shorter (by assumption)

def encode (text : List Char) : List UInt8 :=
  text.flatMap String.utf8EncodeChar

end DirectoryName.Utf8

namespace DirectoryName

/-- The UTF-8 octets of a text. -/
def octetsOf (text : String) : List UInt8 :=
  Utf8.encode text.toList

end DirectoryName

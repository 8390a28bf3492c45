import DirectoryName.Reading.Name

namespace DirectoryName

/-! The grammar of written names.

Each relation below says which octets spell a thing, without saying how they are
read: there is no position, no lookahead and no choice of a longest match. Spaces
around types and values are padding; the pieces of a value say how each of its octets
was written, and what they denote has to be the UTF-8 of the value. -/

/-- A hexadecimal digit of either case, with its value. -/
inductive HexDigit : UInt8 → UInt8 → Prop where
  | decimal (value : UInt8) (below : value < 10) : HexDigit (0x30 + value) value
  | lower (value : UInt8) (above : 10 ≤ value) (below : value < 16) :
      HexDigit (0x61 + (value - 10)) value
  | upper (value : UInt8) (above : 10 ≤ value) (below : value < 16) :
      HexDigit (0x41 + (value - 10)) value

/-- Pairs of hexadecimal digits, one for each octet. -/
inductive HexSpelling : List UInt8 → List UInt8 → Prop where
  | nil : HexSpelling [] []
  | cons {high low highValue lowValue : UInt8} {octets digits : List UInt8}
      (highDigit : HexDigit high highValue) (lowDigit : HexDigit low lowValue)
      (rest : HexSpelling octets digits) :
      HexSpelling ((highValue * 16 + lowValue) :: octets) (high :: low :: digits)

namespace Dialect

/-- What a backslash may stand before when escapes have to be needful. -/
def protectable : Dialect → List UInt8
  | .lenient | .strictV3 =>
      [Octet.comma, Octet.plus, Octet.quote, Octet.backslash, Octet.less, Octet.greater,
        Octet.semicolon, Octet.equals, Octet.space, Octet.hash, 0]
  | .dce =>
      [Octet.slash, Octet.comma, Octet.equals, Octet.backslash, Octet.hash, 0]

/-- What cannot stand for itself in a plain value. -/
def reserved : Dialect → List UInt8
  | .lenient | .strictV3 =>
      [Octet.backslash, Octet.quote, Octet.less, Octet.greater, Octet.comma, Octet.plus,
        Octet.semicolon]
  | .dce => [Octet.slash, Octet.comma, Octet.backslash]

/-- What stands between the assertions of a component. -/
def joint : Dialect → UInt8
  | .lenient | .strictV3 => Octet.plus
  | .dce => Octet.comma

end Dialect

/-- A backslash with what it protects, or with the two digits of an octet. -/
inductive EscapeSpelling (rules : Rules) : Piece → List UInt8 → Prop where
  | escaped (octet : UInt8) (noDigit : ∀ value, ¬HexDigit octet value)
      (needful : rules.strictness.needfulEscapesOnly → octet ∈ rules.dialect.protectable) :
      EscapeSpelling rules (.escaped octet) [Octet.backslash, octet]
  | pair {high low highValue lowValue : UInt8}
      (highDigit : HexDigit high highValue) (lowDigit : HexDigit low lowValue) :
      EscapeSpelling rules (.pair (highValue * 16 + lowValue)) [Octet.backslash, high, low]

/-- A sequence of escapes and of octets that stand for themselves, none of them in
`reserved`. -/
inductive PiecesSpelling (rules : Rules) (reserved : List UInt8) :
    List Piece → List UInt8 → Prop where
  | nil : PiecesSpelling rules reserved [] []
  | plain {octet : UInt8} {pieces : List Piece} {text : List UInt8}
      (free : octet ∉ reserved) (rest : PiecesSpelling rules reserved pieces text) :
      PiecesSpelling rules reserved (.plain octet :: pieces) (octet :: text)
  | escape {piece : Piece} {pieces : List Piece} {escape text : List UInt8}
      (first : EscapeSpelling rules piece escape)
      (rest : PiecesSpelling rules reserved pieces text) :
      PiecesSpelling rules reserved (piece :: pieces) (escape ++ text)

/-- The flags of a value in pieces: nonprintable exactly when two digits denote an octet
outside printable ASCII. -/
def Piece.FlagsOf (pieces : List Piece) (flags : ValueFlags) : Prop :=
  (flags = .nonprintable ∧
      ∃ octet, Piece.pair octet ∈ pieces ∧ ¬(0x20 ≤ octet ∧ octet ≤ 0x7E)) ∨
    (flags = .string ∧
      ∀ octet, Piece.pair octet ∈ pieces → 0x20 ≤ octet ∧ octet ≤ 0x7E)

/-- What may stand around types and values. -/
def Padding (rules : Rules) (text : List UInt8) : Prop :=
  (∀ octet ∈ text, octet = Octet.space) ∧
    (rules.dialect = .dce ∨ rules.strictness.noEdgeSpaces → text = [])

/-- A letter, then letters, digits and hyphens. -/
def IsDescriptor (octets : List UInt8) : Prop :=
  ∃ first rest, octets = first :: rest ∧ Octet.isLetter first ∧
    ∀ octet ∈ rest, Octet.isKeyOctet octet

/-- At least two runs of digits with single dots between them. -/
def IsDottedNumber (octets : List UInt8) : Prop :=
  ∃ arcs : List (List UInt8), octets = [Octet.dot].intercalate arcs ∧ 2 ≤ arcs.length ∧
    ∀ arc ∈ arcs, arc ≠ [] ∧ ∀ octet ∈ arc, Octet.isDigit octet

/-- The word `oid.` in any letter case. -/
def IsOidWord (octets : List UInt8) : Prop :=
  ∃ o i d, octets = [o, i, d, Octet.dot] ∧ o ∈ octetsOf "oO" ∧ i ∈ octetsOf "iI" ∧
    d ∈ octetsOf "dD"

inductive TypeSpelling (dialect : Dialect) : String → List UInt8 → Prop where
  | descriptor {type : String} (descriptor : IsDescriptor (octetsOf type)) :
      TypeSpelling dialect type (octetsOf type)
  | number {type : String} (number : IsDottedNumber (octetsOf type)) :
      TypeSpelling dialect type (octetsOf type)
  | oid {type : String} {word : List UInt8} (lenient : dialect = .lenient)
      (prefixed : IsOidWord word) (number : IsDottedNumber (octetsOf type)) :
      TypeSpelling dialect type (word ++ octetsOf type)

inductive ValueSpelling (rules : Rules) : Value → List UInt8 → Prop where
  | hexString {text : String} {digits : List UInt8} (nonempty : digits ≠ [])
      (spelled : HexSpelling (octetsOf text) digits) :
      ValueSpelling rules ⟨text, .binary⟩ (Octet.hash :: digits)
  | quoted {text : String} {flags : ValueFlags} {pieces : List Piece} {inner : List UInt8}
      (lenient : rules.dialect = .lenient)
      (spelled : PiecesSpelling rules [Octet.quote, Octet.backslash] pieces inner)
      (decodes : pieces.map Piece.octet = octetsOf text)
      (marked : Piece.FlagsOf pieces flags) :
      ValueSpelling rules ⟨text, flags⟩ (Octet.quote :: inner ++ [Octet.quote])
  | plain {text : String} {flags : ValueFlags} {pieces : List Piece} {spelling : List UInt8}
      (spelled : PiecesSpelling rules rules.dialect.reserved pieces spelling)
      (noHash : pieces.head? ≠ some (.plain Octet.hash))
      (noEdgeSpaces : rules.dialect ≠ .dce →
        pieces.head? ≠ some (.plain Octet.space) ∧ pieces.getLast? ≠ some (.plain Octet.space))
      (decodes : pieces.map Piece.octet = octetsOf text)
      (marked : Piece.FlagsOf pieces flags) :
      ValueSpelling rules ⟨text, flags⟩ spelling

inductive AvaSpelling (rules : Rules) : Ava → List UInt8 → Prop where
  | intro {type : String} {value : Value} {typeText valueText : List UInt8}
      {beforeType afterType beforeValue afterValue : List UInt8}
      (typePadded : Padding rules beforeType) (typed : TypeSpelling rules.dialect type typeText)
      (equalsPadded : Padding rules afterType) (valuePadded : Padding rules beforeValue)
      (valued : ValueSpelling rules value valueText) (endPadded : Padding rules afterValue) :
      AvaSpelling rules ⟨type, value.text, value.flags⟩
        (beforeType ++ typeText ++ afterType ++
          Octet.equals :: (beforeValue ++ valueText ++ afterValue))

inductive RdnSpelling (rules : Rules) : Rdn → List UInt8 → Prop where
  | single {ava : Ava} {text : List UInt8} (spelled : AvaSpelling rules ava text) :
      RdnSpelling rules ⟨ava, []⟩ text
  | more {ava : Ava} {rdn : Rdn} {first rest : List UInt8}
      (spelled : AvaSpelling rules ava first) (others : RdnSpelling rules rdn rest) :
      RdnSpelling rules ⟨ava, rdn.avas⟩ (first ++ rules.dialect.joint :: rest)

/-- Components with separators between them, as the LDAP dialects write them. -/
inductive RdnsSpelling (rules : Rules) : List Rdn → List UInt8 → Prop where
  | single {rdn : Rdn} {text : List UInt8} (spelled : RdnSpelling rules rdn text) :
      RdnsSpelling rules [rdn] text
  | more {rdn : Rdn} {rdns : List Rdn} {first rest : List UInt8} {separator : UInt8}
      (spelled : RdnSpelling rules rdn first)
      (separates : separator = Octet.comma ∨
        separator = Octet.semicolon ∧ rules.dialect = .lenient)
      (noSpace : rules.strictness.noSpaceAfterSeparator → rest.head? ≠ some Octet.space)
      (others : RdnsSpelling rules rdns rest) :
      RdnsSpelling rules (rdn :: rdns) (first ++ separator :: rest)

/-- Names in the LDAP dialects. Spaces alone spell the root where padding is allowed. -/
inductive LdapSpelling (rules : Rules) : Dn → List UInt8 → Prop where
  | root {text : List UInt8} (spaces : ∀ octet ∈ text, octet = Octet.space)
      (strict : rules.strictness.noEdgeSpaces → text = []) : LdapSpelling rules Dn.root text
  | rdns {rdns : List Rdn} {text : List UInt8} (spelled : RdnsSpelling rules rdns text) :
      LdapSpelling rules ⟨rdns⟩ text

/-- Components with a slash in front of each, in the order written. -/
inductive PathSpelling (rules : Rules) : List Rdn → List UInt8 → Prop where
  | nil : PathSpelling rules [] []
  | cons {rdn : Rdn} {rdns : List Rdn} {first rest : List UInt8}
      (spelled : RdnSpelling rules rdn first) (others : PathSpelling rules rdns rest) :
      PathSpelling rules (rdn :: rdns) (Octet.slash :: (first ++ rest))

/-- Names in path notation, the most general component first. -/
def DceSpelling (rules : Rules) (name : Dn) (text : List UInt8) : Prop :=
  PathSpelling rules name.rdns.reverse text

/-- Names in the notation of a dialect. -/
def NameSpelling (rules : Rules) (name : Dn) (text : List UInt8) : Prop :=
  match rules.dialect with
  | .lenient | .strictV3 => LdapSpelling rules name text
  | .dce => DceSpelling rules name text

end DirectoryName

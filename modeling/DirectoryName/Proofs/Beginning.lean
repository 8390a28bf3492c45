import DirectoryName.Proofs.Reading.Name
import DirectoryName.Proofs.Writing.Escape

namespace DirectoryName

/-! Texts that break off.

A text that breaks off in the middle is the beginning of a name when something can be written
behind it that makes it one. Up to the equals sign of an assertion that is always so. In a
value it depends on the octets that the value stands for up to there: they have to be the
beginning of some UTF-8. -/

/-- Where a value breaks off: between two of its octets, after the first digit of a pair with
this value, or where the value has already ended. -/
inductive Cut where
  | between
  | within (high : UInt8)
  | behind

/-- What the octets of the whole value may be, when these are the ones before the cut. -/
def Cut.Allows (cut : Cut) (octets whole : List UInt8) : Prop :=
  match cut with
  | .between => octets <+: whole
  | .within high => ∃ low, low < 16 ∧ octets ++ [high * 16 + low] <+: whole
  | .behind => octets = whole

inductive HexBeginning : List UInt8 → Cut → List UInt8 → Prop where
  | between {octets digits : List UInt8} (spelled : HexSpelling octets digits) :
      HexBeginning octets .between digits
  | within {octets digits : List UInt8} {high value : UInt8} (spelled : HexSpelling octets digits)
      (digit : HexDigit high value) : HexBeginning octets (.within value) (digits ++ [high])

inductive PiecesBeginning (rules : Rules) (reserved : List UInt8) :
    List UInt8 → Cut → List UInt8 → Prop where
  | between {pieces : List Piece} {text : List UInt8}
      (spelled : PiecesSpelling rules reserved pieces text) :
      PiecesBeginning rules reserved (pieces.map Piece.octet) .between text
  | within {pieces : List Piece} {text : List UInt8} {high value : UInt8}
      (spelled : PiecesSpelling rules reserved pieces text) (digit : HexDigit high value) :
      PiecesBeginning rules reserved (pieces.map Piece.octet) (.within value)
        (text ++ [Octet.backslash, high])

/-- A value up to a cut. A hexadecimal string has ended only when a space follows its digits. -/
inductive ValueBeginning (rules : Rules) : List UInt8 → Cut → List UInt8 → Prop where
  | hexString {octets digits : List UInt8} {cut : Cut} (begun : HexBeginning octets cut digits) :
      ValueBeginning rules octets cut (Octet.hash :: digits)
  | hexStringEnd {octets digits padding : List UInt8} (nonempty : digits ≠ [])
      (spelled : HexSpelling octets digits) (some : padding ≠ [])
      (padded : Padding rules padding) :
      ValueBeginning rules octets .behind (Octet.hash :: (digits ++ padding))
  | quoted {octets inner : List UInt8} {cut : Cut} (lenient : rules.dialect = .lenient)
      (begun : PiecesBeginning rules [Octet.quote, Octet.backslash] octets cut inner) :
      ValueBeginning rules octets cut (Octet.quote :: inner)
  | quotedEnd {pieces : List Piece} {inner padding : List UInt8}
      (lenient : rules.dialect = .lenient)
      (spelled : PiecesSpelling rules [Octet.quote, Octet.backslash] pieces inner)
      (padded : Padding rules padding) :
      ValueBeginning rules (pieces.map Piece.octet) .behind
        (Octet.quote :: (inner ++ Octet.quote :: padding))
  | plain {octets text : List UInt8} {cut : Cut}
      (begun : PiecesBeginning rules rules.dialect.reserved octets cut text)
      (noHash : text.head? ≠ some Octet.hash)
      (noSpace : rules.dialect ≠ .dce → text.head? ≠ some Octet.space) :
      ValueBeginning rules octets cut text

/-- What was meant as a hexadecimal string, up to a space or the end of the value: an odd number
of octets of which some are no digits. -/
def HasWrongDigit (dialect : Dialect) (text : List UInt8) : Prop :=
  ∃ digits, text = Octet.hash :: digits ∧ digits.length % 2 = 1 ∧
    (∀ octet ∈ digits, Reading.isHexStringOctet dialect octet = true) ∧
    ∃ digit ∈ digits, ∀ value, ¬HexDigit digit value

/-- An assertion up to its value. -/
inductive AvaOpening (rules : Rules) : List UInt8 → Prop where
  | intro {type : String} {typeText beforeType afterType beforeValue : List UInt8}
      (typePadded : Padding rules beforeType) (typed : TypeSpelling rules.dialect type typeText)
      (equalsPadded : Padding rules afterType) (valuePadded : Padding rules beforeValue) :
      AvaOpening rules (beforeType ++ typeText ++ afterType ++ Octet.equals :: beforeValue)

/-- A component that breaks off in an assertion, of which it has the text `last`. -/
inductive RdnBreak (rules : Rules) (last : List UInt8) : List UInt8 → Prop where
  | here : RdnBreak rules last last
  | more {ava : Ava} {first rest : List UInt8} (spelled : AvaSpelling rules ava first)
      (others : RdnBreak rules last rest) :
      RdnBreak rules last (first ++ rules.dialect.joint :: rest)

inductive RdnsBreak (rules : Rules) (last : List UInt8) : List UInt8 → Prop where
  | here {text : List UInt8} (broken : RdnBreak rules last text) : RdnsBreak rules last text
  | more {rdn : Rdn} {first rest : List UInt8} {separator : UInt8}
      (spelled : RdnSpelling rules rdn first)
      (separates : separator = Octet.comma ∨
        separator = Octet.semicolon ∧ rules.dialect = .lenient)
      (noSpace : rules.strictness.noSpaceAfterSeparator → rest.head? ≠ some Octet.space)
      (others : RdnsBreak rules last rest) : RdnsBreak rules last (first ++ separator :: rest)

inductive PathBreak (rules : Rules) (last : List UInt8) : List UInt8 → Prop where
  | here {text : List UInt8} (broken : RdnBreak rules last text) :
      PathBreak rules last (Octet.slash :: text)
  | more {rdn : Rdn} {first rest : List UInt8} (spelled : RdnSpelling rules rdn first)
      (others : PathBreak rules last rest) : PathBreak rules last (Octet.slash :: (first ++ rest))

/-- The text of a name that breaks off in an assertion, of which it has the text `last`. -/
def NameBreak (rules : Rules) (last text : List UInt8) : Prop :=
  match rules.dialect with
  | .lenient | .strictV3 => RdnsBreak rules last text
  | .dce => PathBreak rules last text

theorem nameBreak_ldap {rules : Rules} {last text : List UInt8} (ldap : rules.dialect ≠ .dce) :
    NameBreak rules last text ↔ RdnsBreak rules last text := by
  unfold NameBreak
  cases dialect : rules.dialect with
  | lenient | strictV3 => rfl
  | dce => exact absurd dialect ldap

theorem nameBreak_dce {rules : Rules} {last text : List UInt8} (dce : rules.dialect = .dce) :
    NameBreak rules last text ↔ PathBreak rules last text := by
  unfold NameBreak
  rw [dce]

/-- The text of a name that breaks off in a value, after octets that are not the beginning of
any UTF-8. -/
def Spoilt (rules : Rules) (text : List UInt8) : Prop :=
  ∃ opening value octets cut, AvaOpening rules opening ∧ ValueBeginning rules octets cut value ∧
    NameBreak rules (opening ++ value) text ∧ ∀ whole : String, ¬cut.Allows octets (octetsOf whole)

/-! What breaks off can be completed. -/

theorem exists_hexDigit {value : UInt8} (below : value < 16) : ∃ digit, HexDigit digit value := by
  by_cases decimal : value < 10
  · exact ⟨_, .decimal value decimal⟩
  · exact ⟨_, .lower value (UInt8.not_lt.mp decimal) below⟩

theorem HexSpelling.append {first second firstDigits secondDigits : List UInt8}
    (firstSpelled : HexSpelling first firstDigits)
    (secondSpelled : HexSpelling second secondDigits) :
    HexSpelling (first ++ second) (firstDigits ++ secondDigits) := by
  induction firstSpelled with
  | nil => exact secondSpelled
  | cons highDigit lowDigit _ ih => exact .cons highDigit lowDigit ih

theorem HexBeginning.complete {octets whole digits : List UInt8} {cut : Cut}
    (begun : HexBeginning octets cut digits) (allowed : cut.Allows octets whole) :
    ∃ more, HexSpelling whole (digits ++ more) := by
  cases begun with
  | between spelled =>
      obtain ⟨rest, rfl⟩ := allowed
      exact ⟨_, spelled.append (hexSpelling_hexPairs rest)⟩
  | within spelled digit =>
      obtain ⟨low, below, rest, rfl⟩ := allowed
      obtain ⟨lowOctet, lowDigit⟩ := exists_hexDigit below
      refine ⟨lowOctet :: Utf8.encode (rest.flatMap Octet.hexPair), ?_⟩
      rw [List.append_assoc, List.append_assoc]
      exact spelled.append (.cons digit lowDigit (hexSpelling_hexPairs rest))

theorem Piece.map_octet_pair (octets : List UInt8) : (octets.map pair).map octet = octets := by
  rw [List.map_map]
  exact List.map_id octets

theorem PiecesBeginning.complete {rules : Rules} {reserved octets whole text : List UInt8}
    {cut : Cut} (begun : PiecesBeginning rules reserved octets cut text)
    (allowed : cut.Allows octets whole) :
    ∃ more pieces, PiecesSpelling rules reserved pieces (text ++ more) ∧
      pieces.map Piece.octet = whole ∧
        ∀ octet, pieces.head? = some (.plain octet) → text.head? = some octet := by
  cases begun with
  | @between pieces text spelled =>
      obtain ⟨rest, rfl⟩ := allowed
      refine ⟨_, _, spelled.append (piecesSpelling_pairs rest), ?_, ?_⟩
      · rw [List.map_append, Piece.map_octet_pair]
      · intro octet head
        cases pieces with
        | nil => cases rest <;> simp at head
        | cons piece pieces => exact spelled.head?_of_plain head
  | @within pieces text high value spelled digit =>
      obtain ⟨low, below, rest, rfl⟩ := allowed
      obtain ⟨lowOctet, lowDigit⟩ := exists_hexDigit below
      have pair : EscapeSpelling rules (.pair (value * 16 + low)) [Octet.backslash, high, lowOctet] :=
        .pair digit lowDigit
      refine ⟨lowOctet :: Utf8.encode (rest.flatMap fun octet => '\\' :: Octet.hexPair octet),
        pieces ++ .pair (value * 16 + low) :: rest.map .pair, ?_, ?_, ?_⟩
      · have behind : PiecesSpelling rules reserved _ _ := .escape pair (piecesSpelling_pairs rest)
        rw [List.append_assoc]
        exact spelled.append behind
      · rw [List.map_append, List.map_cons, Piece.map_octet_pair, List.append_assoc]
        rfl
      · intro octet head
        cases pieces with
        | nil => simp at head
        | cons piece pieces =>
          rw [List.head?_append, spelled.head?_of_plain head]
          rfl

/-- With one more plain octet behind it, plain text does not end in a space. -/
theorem PiecesBeginning.complete_plain {rules : Rules} {reserved octets text : List UInt8}
    {cut : Cut} {whole : String} (free : 0x78 ∉ reserved)
    (begun : PiecesBeginning rules reserved octets cut text)
    (allowed : cut.Allows octets (octetsOf whole)) :
    ∃ more pieces, PiecesSpelling rules reserved (pieces ++ [.plain 0x78]) (text ++ more) ∧
      (pieces ++ [.plain 0x78]).map Piece.octet = octetsOf (whole ++ "x") ∧
        ∀ octet, (pieces ++ [Piece.plain 0x78]).head? = some (.plain octet) →
          text.head? = some octet ∨ octet = 0x78 := by
  obtain ⟨more, pieces, spelled, decodes, head⟩ := begun.complete allowed
  refine ⟨more ++ [0x78], pieces, ?_, ?_, ?_⟩
  · rw [← List.append_assoc]
    exact spelled.append (.plain free .nil)
  · rw [List.map_append, decodes, octetsOf_append]
    rfl
  · intro octet found
    cases pieces with
    | nil =>
      cases found
      exact .inr rfl
    | cons piece pieces => exact .inl (head octet found)

theorem Piece.exists_flagsOf (pieces : List Piece) : ∃ flags, FlagsOf pieces flags :=
  ⟨_, flagsOf_iff.mpr rfl⟩

theorem ValueBeginning.complete {rules : Rules} {octets text : List UInt8} {cut : Cut}
    {whole : String} (begun : ValueBeginning rules octets cut text)
    (allowed : cut.Allows octets (octetsOf whole)) :
    ∃ more value used after, text ++ more = used ++ after ∧ ValueSpelling rules value used ∧
      Padding rules after := by
  have none := Reading.padding_nil rules
  cases begun with
  | hexString begun =>
      obtain ⟨more, spelled⟩ := begun.complete allowed
      have longer := spelled.append (hexSpelling_hexPairs (octetsOf "x"))
      have nonempty := longer.eq_nil_iff.not.mpr
        (List.append_ne_nil_of_right_ne_nil _ (by decide))
      rw [← octetsOf_append] at longer
      refine ⟨more ++ octetsOf "78", _, _, [], ?_, .hexString nonempty longer, none⟩
      rw [List.append_nil, List.cons_append, List.append_assoc]
      rfl
  | @hexStringEnd octets digits padding nonempty spelled some padded =>
      cases allowed
      exact ⟨[], _, _, padding, by simp, .hexString nonempty spelled, padded⟩
  | @quoted octets inner cut lenient begun =>
      obtain ⟨more, pieces, spelled, decodes, _⟩ := begun.complete allowed
      obtain ⟨flags, marked⟩ := Piece.exists_flagsOf pieces
      exact ⟨more ++ [Octet.quote], _, _, [], by simp, .quoted lenient spelled decodes marked, none⟩
  | @quotedEnd pieces inner padding lenient spelled padded =>
      obtain ⟨flags, marked⟩ := Piece.exists_flagsOf pieces
      exact ⟨[], _, _, padding, by simp, .quoted lenient spelled allowed marked, padded⟩
  | plain begun noHash noSpace =>
      have free : 0x78 ∉ rules.dialect.reserved := by cases rules.dialect <;> decide
      obtain ⟨more, pieces, spelled, decodes, head⟩ := begun.complete_plain free allowed
      obtain ⟨flags, marked⟩ := Piece.exists_flagsOf (pieces ++ [.plain 0x78])
      refine ⟨more, _, _, [], (List.append_nil _).symm, .plain spelled ?_ ?_ decodes marked, none⟩
      · intro hash
        rcases head _ hash with begins | other
        · exact noHash begins
        · exact absurd other (by decide)
      · intro ldap
        constructor
        · intro space
          rcases head _ space with begins | other
          · exact noSpace ldap begins
          · exact absurd other (by decide)
        · rw [List.getLast?_concat]
          decide

theorem AvaOpening.complete {rules : Rules} {opening octets text : List UInt8} {cut : Cut}
    {whole : String} (opened : AvaOpening rules opening)
    (begun : ValueBeginning rules octets cut text)
    (allowed : cut.Allows octets (octetsOf whole)) :
    ∃ more ava, AvaSpelling rules ava (opening ++ text ++ more) := by
  obtain ⟨typePadded, typed, equalsPadded, valuePadded⟩ := opened
  obtain ⟨more, value, used, after, same, spelled, padded⟩ := begun.complete allowed
  have assembled := AvaSpelling.intro typePadded typed equalsPadded valuePadded spelled padded
  simp only [List.append_assoc, List.cons_append, ← same] at assembled ⊢
  exact ⟨more, _, assembled⟩

variable {rules : Rules} {last text more : List UInt8} {ava : Ava}

theorem RdnBreak.complete (broken : RdnBreak rules last text)
    (spelled : AvaSpelling rules ava (last ++ more)) :
    ∃ rdn, RdnSpelling rules rdn (text ++ more) := by
  induction broken with
  | here => exact ⟨_, .single spelled⟩
  | more first _ ih =>
      obtain ⟨rdn, others⟩ := ih
      rw [List.append_assoc, List.cons_append]
      exact ⟨_, .more first others⟩

theorem RdnBreak.suffix (broken : RdnBreak rules last text) : last <:+ text := by
  induction broken with
  | here => exact List.suffix_rfl
  | more _ _ ih => exact (ih.trans (List.suffix_cons _ _)).trans (List.suffix_append _ _)

theorem RdnsBreak.suffix (broken : RdnsBreak rules last text) : last <:+ text := by
  induction broken with
  | here broken => exact broken.suffix
  | more _ _ _ _ ih => exact (ih.trans (List.suffix_cons _ _)).trans (List.suffix_append _ _)

theorem PathBreak.suffix (broken : PathBreak rules last text) : last <:+ text := by
  induction broken with
  | here broken => exact broken.suffix.trans (List.suffix_cons _ _)
  | more _ _ ih => exact (ih.trans (List.suffix_append _ _)).trans (List.suffix_cons _ _)

theorem NameBreak.suffix (broken : NameBreak rules last text) : last <:+ text := by
  by_cases dce : rules.dialect = .dce
  · exact ((nameBreak_dce dce).mp broken).suffix
  · exact ((nameBreak_ldap dce).mp broken).suffix

theorem RdnsBreak.complete (broken : RdnsBreak rules last text)
    (spelled : AvaSpelling rules ava (last ++ more))
    (noSpace : last = [] → more.head? ≠ some Octet.space) :
    ∃ rdns, RdnsSpelling rules rdns (text ++ more) := by
  induction broken with
  | here broken =>
      obtain ⟨rdn, spelled⟩ := broken.complete spelled
      exact ⟨_, .single spelled⟩
  | @more rdn first rest separator firstSpelled separates follows others ih =>
      obtain ⟨rdns, restSpelled⟩ := ih
      rw [List.append_assoc, List.cons_append]
      refine ⟨_, .more firstSpelled separates ?_ restSpelled⟩
      intro strict
      cases rest with
      | nil => exact noSpace (List.suffix_nil.mp others.suffix)
      | cons next rest => exact follows strict

theorem PathBreak.complete (broken : PathBreak rules last text)
    (spelled : AvaSpelling rules ava (last ++ more)) :
    ∃ rdns, PathSpelling rules rdns (text ++ more) := by
  induction broken with
  | here broken =>
      obtain ⟨rdn, spelled⟩ := broken.complete spelled
      have path := PathSpelling.cons spelled .nil
      rw [List.append_nil] at path
      exact ⟨_, path⟩
  | more first _ ih =>
      obtain ⟨rdns, others⟩ := ih
      rw [List.cons_append, List.append_assoc]
      exact ⟨_, .cons first others⟩

/-- Where an assertion can be completed, the name can. -/
theorem NameBreak.complete (broken : NameBreak rules last text)
    (spelled : AvaSpelling rules ava (last ++ more))
    (noSpace : last = [] → more.head? ≠ some Octet.space) :
    ∃ name, NameSpelling rules name (text ++ more) := by
  by_cases dce : rules.dialect = .dce
  · rw [nameBreak_dce dce] at broken
    obtain ⟨rdns, path⟩ := broken.complete spelled
    rw [← List.reverse_reverse rdns] at path
    exact ⟨⟨rdns.reverse⟩, (nameSpelling_dce dce).mpr path⟩
  · rw [nameBreak_ldap dce] at broken
    obtain ⟨rdns, spelled⟩ := broken.complete spelled noSpace
    exact ⟨⟨rdns⟩, (nameSpelling_ldap dce).mpr (.rdns spelled)⟩

end DirectoryName

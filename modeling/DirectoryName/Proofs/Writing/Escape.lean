import DirectoryName.Proofs.Reading.Piece
import DirectoryName.Writing

namespace DirectoryName

/-! Escaped characters as the pieces of a value.

Every character is written as one of three spellings of its octets: bare, behind a
backslash, or as hexadecimal pairs. What is written for a value is spelled by the pieces
of its characters, whatever the strictness of the reader. -/

/-- What is protected for a dialect. -/
def Dialect.escapeRules : Dialect → EscapeRules
  | .lenient | .strictV3 => .ldap
  | .dce => .dce

namespace Octet

theorem encode_hexDigit {value : UInt8} (below : value < 16) :
    ∃ digit, Utf8.encode [hexDigit value] = [digit] ∧ HexDigit digit value := by
  have small : value.toNat < 16 := UInt8.lt_iff_toNat_lt.mp below
  by_cases decimal : value < 10
  · have sum : (0x30 + value).toNat = 0x30 + value.toNat := by
      rw [UInt8.toNat_add]
      exact Nat.mod_eq_of_lt (Nat.lt_of_lt_of_le (Nat.add_lt_add_left small 0x30) (by decide))
    refine ⟨0x30 + value, ?_, .decimal value decimal⟩
    rw [hexDigit, if_pos decimal, ← sum]
    exact (List.append_nil _).trans (encodeChar_toChar (by omega))
  · have above : 10 ≤ value := UInt8.not_lt.mp decimal
    have ten : 10 ≤ value.toNat := UInt8.le_iff_toNat_le.mp above
    have sum : (0x61 + (value - 10)).toNat = 0x61 + (value.toNat - 10) := by
      rw [UInt8.toNat_add, UInt8.toNat_sub_of_le _ _ above]
      exact Nat.mod_eq_of_lt (Nat.lt_of_lt_of_le
        (Nat.add_lt_add_left (Nat.lt_of_le_of_lt (Nat.sub_le _ _) small) 0x61) (by decide))
    refine ⟨0x61 + (value - 10), ?_, .lower value above below⟩
    rw [hexDigit, if_neg decimal, ← sum]
    exact (List.append_nil _).trans (encodeChar_toChar (by omega))

theorem ofNibbles_div_mod (octet : UInt8) : octet / 16 * 16 + octet % 16 = octet := by
  have bound := octet.toNat_lt
  rw [← UInt8.toNat_inj]
  simp only [UInt8.toNat_add, UInt8.toNat_mul, UInt8.toNat_div, UInt8.toNat_mod,
    UInt8.toNat_ofNat, Nat.reducePow, Nat.reduceMod]
  omega

/-- An octet's digits, as octets. -/
theorem encode_hexPair (octet : UInt8) :
    ∃ high low, Utf8.encode (hexPair octet) = [high, low] ∧ HexDigit high (octet / 16) ∧
      HexDigit low (octet % 16) := by
  have bound := octet.toNat_lt
  have nibbles : octet / 16 < 16 ∧ octet % 16 < 16 := by
    simp only [UInt8.lt_iff_toNat_lt, UInt8.toNat_div, UInt8.toNat_mod, UInt8.toNat_ofNat,
      Nat.reducePow, Nat.reduceMod]
    omega
  obtain ⟨high, highEncoded, highDigit⟩ := encode_hexDigit nibbles.1
  obtain ⟨low, lowEncoded, lowDigit⟩ := encode_hexDigit nibbles.2
  refine ⟨high, low, ?_, highDigit, lowDigit⟩
  have both := Utf8.encode_append [hexDigit (octet / 16)] [hexDigit (octet % 16)]
  rw [highEncoded, lowEncoded] at both
  exact both

theorem printable_of_mem {character : Char} {octet : UInt8}
    (printable : Escape.isPrintableAscii character = true)
    (member : octet ∈ String.utf8EncodeChar character) : 0x20 ≤ octet ∧ octet ≤ 0x7E := by
  simp only [Escape.isPrintableAscii, Bool.and_eq_true, decide_eq_true_eq, Char.le_def,
    UInt32.le_iff_toNat_le] at printable
  obtain ⟨above, below⟩ : 0x20 ≤ character.toNat ∧ character.toNat ≤ 0x7E := printable
  rw [Utf8.encodeChar_ascii (by omega), List.mem_singleton] at member
  rw [member, UInt8.le_iff_toNat_le, UInt8.le_iff_toNat_le, UInt8.toNat_ofNat',
    Nat.mod_eq_of_lt (by omega)]
  exact ⟨above, below⟩

end Octet

theorem hexSpelling_hexPairs (octets : List UInt8) :
    HexSpelling octets (Utf8.encode (octets.flatMap Octet.hexPair)) := by
  induction octets with
  | nil => exact .nil
  | cons octet octets ih =>
      obtain ⟨high, low, encoded, highDigit, lowDigit⟩ := Octet.encode_hexPair octet
      have spelled := HexSpelling.cons highDigit lowDigit ih
      rw [Octet.ofNibbles_div_mod] at spelled
      rw [List.flatMap_cons, Utf8.encode_append, encoded]
      exact spelled

theorem piecesSpelling_pairs {rules : Rules} {reserved : List UInt8} (octets : List UInt8) :
    PiecesSpelling rules reserved (octets.map .pair)
      (Utf8.encode (octets.flatMap fun octet => '\\' :: Octet.hexPair octet)) := by
  induction octets with
  | nil => exact .nil
  | cons octet octets ih =>
      obtain ⟨high, low, encoded, highDigit, lowDigit⟩ := Octet.encode_hexPair octet
      have pair := @EscapeSpelling.pair rules _ _ _ _ highDigit lowDigit
      rw [Octet.ofNibbles_div_mod] at pair
      rw [List.flatMap_cons, Utf8.encode_append, Utf8.encode_cons, encoded]
      exact .escape pair ih

/-- Pieces that spell a value, with hexadecimal pairs where it is `hexed` and only there. -/
structure Written (rules : Rules) (reserved : List UInt8) (hexed : Bool) (value : List Char)
    (pieces : List Piece) (text : List UInt8) : Prop where
  spelled : PiecesSpelling rules reserved pieces text
  decodes : pieces.map Piece.octet = Utf8.encode value
  paired : ∀ octet, Piece.pair octet ∈ pieces → hexed = true
  covered : hexed = true → ∀ octet ∈ Utf8.encode value, ¬(0x20 ≤ octet ∧ octet ≤ 0x7E) →
    Piece.pair octet ∈ pieces

namespace Written

variable {rules : Rules} {reserved : List UInt8} {hexed : Bool}

theorem nil : Written rules reserved hexed [] [] [] where
  spelled := .nil
  decodes := rfl
  paired := by simp
  covered := by simp [Utf8.encode]

theorem append {first second : List Char} {firstPieces secondPieces : List Piece}
    {firstText secondText : List UInt8}
    (firstWritten : Written rules reserved hexed first firstPieces firstText)
    (secondWritten : Written rules reserved hexed second secondPieces secondText) :
    Written rules reserved hexed (first ++ second) (firstPieces ++ secondPieces)
      (firstText ++ secondText) where
  spelled := firstWritten.spelled.append secondWritten.spelled
  decodes := by
    rw [List.map_append, firstWritten.decodes, secondWritten.decodes, Utf8.encode_append]
  paired octet member := by
    rcases List.mem_append.mp member with member | member
    · exact firstWritten.paired octet member
    · exact secondWritten.paired octet member
  covered hex octet member outside := by
    rw [Utf8.encode_append, List.mem_append] at member
    rcases member with member | member
    · exact List.mem_append_left _ (firstWritten.covered hex octet member outside)
    · exact List.mem_append_right _ (secondWritten.covered hex octet member outside)

/-- A character that stands for itself. -/
theorem bare {character : Char}
    (free : ∀ octet ∈ String.utf8EncodeChar character, octet ∉ reserved)
    (printable : hexed = true → Escape.isPrintableAscii character = true) :
    Written rules reserved hexed [character] ((String.utf8EncodeChar character).map .plain)
      (Utf8.encode [character]) where
  spelled := by
    rw [Utf8.encode, List.flatMap_singleton]
    exact .map_plain free
  decodes := by
    rw [Utf8.encode, List.flatMap_singleton, List.map_map]
    exact List.map_id _
  paired octet member := by simp at member
  covered hex octet member outside := by
    rw [Utf8.encode, List.flatMap_singleton] at member
    exact absurd (Octet.printable_of_mem (printable hex) member) outside

/-- A character as hexadecimal pairs. -/
theorem pairs (character : Char) :
    Written rules reserved true [character] ((String.utf8EncodeChar character).map .pair)
      (Utf8.encode (Escape.hexPairs character)) where
  spelled := by
    rw [Escape.hexPairs]
    exact piecesSpelling_pairs _
  decodes := by
    rw [Utf8.encode, List.flatMap_singleton, List.map_map]
    exact List.map_id _
  paired _ _ := rfl
  covered _ octet member _ := by
    rw [Utf8.encode, List.flatMap_singleton] at member
    exact List.mem_map_of_mem member

/-- A character behind a backslash. -/
theorem escaped {character : Char} (ascii : character.toNat < 0x80)
    (noDigit : Octet.hexValue? (UInt8.ofNat character.toNat) = none)
    (needful : UInt8.ofNat character.toNat ∈ rules.dialect.protectable)
    (printable : hexed = true → Escape.isPrintableAscii character = true) :
    Written rules reserved hexed [character] [.escaped (UInt8.ofNat character.toNat)]
      (Utf8.encode ['\\', character]) := by
  have one : Utf8.encode [character] = [UInt8.ofNat character.toNat] := by
    rw [Utf8.encode, List.flatMap_singleton, Utf8.encodeChar_ascii ascii]
  have backslash : String.utf8EncodeChar '\\' = [Octet.backslash] := by decide
  have spelled := PiecesSpelling.escape
    (EscapeSpelling.escaped _ (Octet.hexValue?_eq_none_iff.mp noDigit) fun _ => needful)
    (@PiecesSpelling.nil rules reserved)
  constructor
  · rw [Utf8.encode_cons, one, backslash]
    exact spelled
  · rw [one]
    rfl
  · simp
  · intro hex other member outside
    rw [Utf8.encode, List.flatMap_singleton] at member
    exact absurd (Octet.printable_of_mem (printable hex) member) outside

end Written

namespace EscapeRules

theorem protects_hash {rules : EscapeRules} (leading : rules.leadingHash = true) (last : Bool) :
    rules.protects true last '#' = true := by
  simp [protects, leading]

theorem protects_space {rules : EscapeRules} {first last : Bool}
    (edges : rules.edgeSpaces = true) (edge : first = true ∨ last = true) :
    rules.protects first last ' ' = true := by
  simp [protects, edges, edge]

theorem mem_of_protects {rules : EscapeRules} {first last : Bool} {character : Char}
    (protects : rules.protects first last character = true) :
    character ∈ rules.specials ∨ (rules.leadingHash = true ∧ character = '#') ∨
      (rules.edgeSpaces = true ∧ character = ' ') := by
  simp only [EscapeRules.protects, Bool.or_eq_true, Bool.and_eq_true, beq_iff_eq,
    List.contains_iff_mem] at protects
  grind

end EscapeRules

/-- Whatever is protected for a dialect may stand behind a backslash there. -/
theorem protectable_of_protects {dialect : Dialect} {first last : Bool} {character : Char}
    (protects : dialect.escapeRules.protects first last character = true) :
    character.toNat < 0x80 ∧ Octet.hexValue? (UInt8.ofNat character.toNat) = none ∧
      UInt8.ofNat character.toNat ∈ dialect.protectable ∧
        Escape.isPrintableAscii character = true := by
  have specials : ∀ special ∈ dialect.escapeRules.specials, special.toNat < 0x80 ∧
      Octet.hexValue? (UInt8.ofNat special.toNat) = none ∧
        UInt8.ofNat special.toNat ∈ dialect.protectable ∧
          Escape.isPrintableAscii special = true := by
    cases dialect <;>
      simp only [Dialect.escapeRules, EscapeRules.ldap, EscapeRules.dce, List.forall_mem_cons,
        List.not_mem_nil, false_implies, implies_true, and_true] <;>
      decide
  rcases EscapeRules.mem_of_protects protects with member | ⟨_, rfl⟩ | ⟨edges, rfl⟩
  · exact specials character member
  · cases dialect <;> decide
  · cases dialect with
    | lenient | strictV3 => decide
    | dce => cases edges

/-- What is reserved is protected. -/
theorem free_of_not_protects {dialect : Dialect} {first last : Bool} {character : Char}
    (bare : ¬dialect.escapeRules.protects first last character = true) :
    ∀ octet ∈ String.utf8EncodeChar character, octet ∉ dialect.reserved := by
  intro octet member reserved
  have all : ∀ octet ∈ dialect.reserved, octet.toNat < 0x80 ∧
      Octet.toChar octet ∈ dialect.escapeRules.specials := by
    cases dialect <;>
      simp only [Dialect.reserved, List.forall_mem_cons, List.not_mem_nil, false_implies,
        implies_true, and_true] <;>
      decide
  obtain ⟨ascii, special⟩ := all octet reserved
  rw [← Octet.eq_toChar_of_mem ascii member] at special
  exact bare (by simp [EscapeRules.protects, special])

theorem escapeChar_written (rules : Rules) (hexed first last : Bool) (character : Char) :
    ∃ pieces,
      Written rules rules.dialect.reserved hexed [character] pieces
        (Utf8.encode
          (Escape.escapeChar rules.dialect.escapeRules hexed first last character)) ∧
      (first = true → Piece.plain Octet.hash ∉ pieces) ∧
      (rules.dialect ≠ .dce → first = true ∨ last = true →
        Piece.plain Octet.space ∉ pieces) := by
  unfold Escape.escapeChar
  split
  · next nul =>
      subst nul
      split
      · next hex =>
          subst hex
          exact ⟨_, .pairs _, by simp, by simp⟩
      · next unhexed =>
          have needful : (0 : UInt8) ∈ rules.dialect.protectable := by
            cases rules.dialect <;> decide
          exact ⟨_, .escaped (by decide) (by decide) needful (fun hex => absurd hex unhexed),
            by simp, by simp⟩
  split
  · next protects =>
      obtain ⟨ascii, noDigit, needful, printable⟩ := protectable_of_protects protects
      exact ⟨_, .escaped ascii noDigit needful fun _ => printable, by simp, by simp⟩
  next bare =>
  split
  · next hex =>
      obtain ⟨rfl, _⟩ := Bool.and_eq_true_iff.mp hex
      exact ⟨_, .pairs _, by simp, by simp⟩
  · next visible =>
      refine ⟨_, .bare (free_of_not_protects bare) ?_, ?_, ?_⟩
      · intro hex
        simpa [hex] using visible
      · intro begins member
        have inside : Octet.hash ∈ String.utf8EncodeChar character := by simpa using member
        apply bare
        rw [Octet.eq_toChar_of_mem (by decide) inside, begins]
        exact EscapeRules.protects_hash (by cases rules.dialect <;> rfl) last
      · intro ldap edge member
        have inside : Octet.space ∈ String.utf8EncodeChar character := by simpa using member
        apply bare
        rw [Octet.eq_toChar_of_mem (by decide) inside]
        refine EscapeRules.protects_space ?_ edge
        cases dialect : rules.dialect with
        | lenient | strictV3 => rfl
        | dce => exact absurd dialect ldap

/-- The pieces of escaped characters begin and end as plain text may. -/
theorem escapeFrom_written (rules : Rules) (hexed first : Bool) (value : List Char) :
    ∃ pieces,
      Written rules rules.dialect.reserved hexed value pieces
        (Utf8.encode (Escape.escapeFrom rules.dialect.escapeRules hexed first value)) ∧
      (first = true → pieces.head? ≠ some (.plain Octet.hash)) ∧
      (rules.dialect ≠ .dce → (first = true → pieces.head? ≠ some (.plain Octet.space)) ∧
        pieces.getLast? ≠ some (.plain Octet.space)) := by
  induction value generalizing first with
  | nil => exact ⟨[], .nil, by simp, by simp⟩
  | cons character rest ih =>
      obtain ⟨front, frontWritten, noHash, noSpace⟩ :=
        escapeChar_written rules hexed first rest.isEmpty character
      obtain ⟨back, backWritten, _, backEdge⟩ := ih false
      have nonempty : front ≠ [] := by
        intro empty
        have none := frontWritten.decodes
        rw [empty, Utf8.encode, List.flatMap_singleton] at none
        exact String.utf8EncodeChar_ne_nil none.symm
      have head : ∀ piece, (front ++ back).head? = some piece → piece ∈ front := by
        intro piece found
        obtain ⟨begin, others, rfl⟩ := List.exists_cons_of_ne_nil nonempty
        cases found
        exact List.mem_cons_self
      refine ⟨front ++ back, ?_, ?_, fun ldap => ⟨?_, ?_⟩⟩
      · rw [Escape.escapeFrom, Utf8.encode_append]
        exact frontWritten.append backWritten
      · exact fun begins found => noHash begins (head _ found)
      · exact fun begins found => noSpace ldap (.inl begins) (head _ found)
      · intro found
        rw [List.getLast?_append] at found
        cases rest with
        | nil =>
            have none : back = [] := List.map_eq_nil_iff.mp backWritten.decodes
            subst none
            exact noSpace ldap (.inr rfl) (List.mem_of_getLast? found)
        | cons next others =>
            cases last : back.getLast? with
            | none =>
                rw [List.getLast?_eq_none_iff] at last
                subst last
                have none := backWritten.decodes
                rw [Utf8.encode_cons, List.map_nil, eq_comm, List.append_eq_nil_iff] at none
                exact String.utf8EncodeChar_ne_nil none.1
            | some piece =>
                rw [last, Option.some_or, ← last] at found
                exact (backEdge ldap).2 found

theorem quoteChar_written (rules : Rules) (hexed : Bool) (character : Char)
    (ldap : rules.dialect ≠ .dce) :
    ∃ pieces, Written rules [Octet.quote, Octet.backslash] hexed [character] pieces
      (Utf8.encode (Escape.quoteChar hexed character)) := by
  unfold Escape.quoteChar
  split
  · next special =>
      simp only [Bool.or_eq_true, decide_eq_true_eq] at special
      have needful : UInt8.ofNat character.toNat ∈ rules.dialect.protectable := by
        cases dialect : rules.dialect with
        | lenient | strictV3 => rcases special with rfl | rfl <;> decide
        | dce => exact absurd dialect ldap
      rcases special with rfl | rfl
      · exact ⟨_, .escaped (by decide) (by decide) needful fun _ => by decide⟩
      · exact ⟨_, .escaped (by decide) (by decide) needful fun _ => by decide⟩
  next bare =>
  split
  · next hex =>
      obtain ⟨rfl, _⟩ := Bool.and_eq_true_iff.mp hex
      exact ⟨_, .pairs _⟩
  · next visible =>
      refine ⟨_, .bare ?_ ?_⟩
      · intro octet member reserved
        simp only [List.mem_cons, List.not_mem_nil, or_false] at reserved
        apply bare
        rcases reserved with rfl | rfl
        · rw [Octet.eq_toChar_of_mem (by decide) member]
          decide
        · rw [Octet.eq_toChar_of_mem (by decide) member]
          decide
      · intro hex
        simpa [hex] using visible

theorem quoteChars_written (rules : Rules) (hexed : Bool) (value : List Char)
    (ldap : rules.dialect ≠ .dce) :
    ∃ pieces, Written rules [Octet.quote, Octet.backslash] hexed value pieces
      (Utf8.encode (value.flatMap (Escape.quoteChar hexed))) := by
  induction value with
  | nil => exact ⟨[], .nil⟩
  | cons character rest ih =>
      obtain ⟨front, frontWritten⟩ := quoteChar_written rules hexed character ldap
      obtain ⟨back, backWritten⟩ := ih
      refine ⟨front ++ back, ?_⟩
      rw [List.flatMap_cons, Utf8.encode_append]
      exact frontWritten.append backWritten

end DirectoryName

import DirectoryName.Proofs.Writing.Display

namespace DirectoryName

/-! Which values need quotes.

The test for quotes asks for octets of a value, the escaper goes over its characters and knows
where each of them starts. A value needs quotes exactly where the escaper would change it, so in
a text with quotes what stands without them has no backslash but for hexadecimal pairs. -/

namespace Utf8

variable {octet : UInt8}

theorem head?_encodeChar_iff (ascii : octet.toNat < 0x80) (character : Char) :
    (String.utf8EncodeChar character).head? = some octet ↔ character = Octet.toChar octet := by
  constructor
  · exact fun found => Octet.eq_toChar_of_mem ascii (List.mem_of_head? found)
  · rintro rfl
    rw [Octet.encodeChar_toChar ascii, List.head?_singleton]

theorem getLast?_encodeChar_iff (ascii : octet.toNat < 0x80) (character : Char) :
    (String.utf8EncodeChar character).getLast? = some octet ↔ character = Octet.toChar octet := by
  constructor
  · exact fun found => Octet.eq_toChar_of_mem ascii (List.mem_of_getLast? found)
  · rintro rfl
    rw [Octet.encodeChar_toChar ascii, List.getLast?_singleton]

theorem encodeChar_ne_nil (character : Char) : String.utf8EncodeChar character ≠ [] := by
  rw [ne_eq, ← List.length_eq_zero_iff, String.length_utf8EncodeChar]
  exact character.utf8Size_pos.ne'

theorem head?_encode_iff (ascii : octet.toNat < 0x80) (text : List Char) :
    (encode text).head? = some octet ↔ text.head? = some (Octet.toChar octet) := by
  cases text with
  | nil => simp [encode]
  | cons character rest =>
      rw [encode_cons, List.head?_append_of_ne_nil _ (encodeChar_ne_nil character),
        head?_encodeChar_iff ascii, List.head?_cons, Option.some_inj]

theorem getLast?_encode_iff (ascii : octet.toNat < 0x80) (text : List Char) :
    (encode text).getLast? = some octet ↔ text.getLast? = some (Octet.toChar octet) := by
  rcases List.eq_nil_or_concat text with rfl | ⟨front, character, rfl⟩
  · simp [encode]
  · have single : encode [character] = String.utf8EncodeChar character :=
      List.flatMap_singleton _ _
    rw [List.concat_eq_append, encode_append, single,
      List.getLast?_append_of_ne_nil _ (encodeChar_ne_nil character),
      getLast?_encodeChar_iff ascii, List.getLast?_concat, Option.some_inj]

theorem mem_encode_iff (ascii : octet.toNat < 0x80) (text : List Char) :
    octet ∈ encode text ↔ Octet.toChar octet ∈ text := by
  rw [encode, List.mem_flatMap]
  constructor
  · rintro ⟨character, member, inside⟩
    exact Octet.eq_toChar_of_mem ascii inside ▸ member
  · intro member
    exact ⟨_, member, by rw [Octet.encodeChar_toChar ascii]; exact List.mem_singleton_self _⟩

end Utf8

namespace Escape

/-! The test on octets. -/

/-- NUL and the special characters of LDAP. -/
def quotedOctets : List UInt8 :=
  [0, Octet.comma, Octet.plus, Octet.quote, Octet.backslash, Octet.less, Octet.greater,
    Octet.semicolon, Octet.equals]

def octetsNeedQuotes (octets : List UInt8) : Bool :=
  octets.head? == some Octet.space || octets.head? == some Octet.hash ||
    octets.getLast? == some Octet.space || octets.any quotedOctets.contains

theorem map_quotedOctets :
    quotedOctets.map Octet.toChar = '\x00' :: EscapeRules.ldap.specials := by
  decide

theorem needsQuotes_eq_octets (value : List Char) :
    needsQuotes value = octetsNeedQuotes (Utf8.encode value) := by
  have ascii : ∀ octet ∈ quotedOctets, octet.toNat < 0x80 := by decide +kernel
  have marks : (∃ character ∈ value, character = '\x00' ∨
      character ∈ EscapeRules.ldap.specials) ↔
        ∃ octet ∈ Utf8.encode value, octet ∈ quotedOctets := by
    simp only [← List.mem_cons, ← map_quotedOctets, List.mem_map]
    constructor
    · rintro ⟨_, member, octet, marked, rfl⟩
      exact ⟨octet, (Utf8.mem_encode_iff (ascii octet marked) value).mpr member, marked⟩
    · rintro ⟨octet, member, marked⟩
      exact ⟨_, (Utf8.mem_encode_iff (ascii octet marked) value).mp member, octet, marked, rfl⟩
  rw [Bool.eq_iff_iff]
  simp only [needsQuotes, octetsNeedQuotes, Bool.or_eq_true, beq_iff_eq, List.any_eq_true,
    List.contains_iff_mem, marks, Utf8.head?_encode_iff (show Octet.space.toNat < 0x80 by decide),
    Utf8.head?_encode_iff (show Octet.hash.toNat < 0x80 by decide),
    Utf8.getLast?_encode_iff (show Octet.space.toNat < 0x80 by decide)]
  rfl

/-! The escaper with positions. -/

variable {rules : EscapeRules} {hexed first : Bool} {value : List Char}

/-- Escapes what is left of a value that takes up `length` octets, from the character that starts
at `index`. -/
def escapeByIndex (rules : EscapeRules) (hexed : Bool) (length index : Nat) (value : List Char) :
    List Char :=
  match value with
  | [] => []
  | character :: rest =>
      escapeChar rules hexed (index == 0) (index == length - 1) character ++
        escapeByIndex rules hexed length (index + character.utf8Size) rest

/-- The end of a value matters for spaces only. -/
theorem escapeChar_last {character : Char} (noSpace : character ≠ ' ') (last other : Bool) :
    escapeChar rules hexed first last character = escapeChar rules hexed first other character := by
  have protect (last : Bool) : rules.protects first last character =
      (rules.specials.contains character || (first && rules.leadingHash && character == '#')) := by
    simp [EscapeRules.protects, noSpace]
  rw [escapeChar, escapeChar, protect, protect]

/-- A space takes up one octet, so it is the last character where its index is the last one. -/
theorem space_isLast_iff {length index : Nat} {rest : List Char}
    (whole : index + (Utf8.encode (' ' :: rest)).length = length) :
    (index == length - 1) = rest.isEmpty := by
  have one : ' '.utf8Size = 1 := rfl
  rw [Utf8.encode_cons, List.length_append, String.length_utf8EncodeChar, one] at whole
  cases rest with
  | nil => simp [← whole, Utf8.encode]
  | cons next rest =>
      have further := next.utf8Size_pos
      rw [Utf8.encode_cons, List.length_append, String.length_utf8EncodeChar] at whole
      rw [List.isEmpty_cons, beq_eq_false_iff_ne]
      omega

theorem escapeByIndex_eq {length index : Nat}
    (whole : index + (Utf8.encode value).length = length) :
    escapeByIndex rules hexed length index value = escapeFrom rules hexed (index == 0) value := by
  induction value generalizing index with
  | nil => rfl
  | cons character rest ih =>
      have sum := whole
      rw [Utf8.encode_cons, List.length_append, String.length_utf8EncodeChar] at sum
      have positive := character.utf8Size_pos
      have later : (index + character.utf8Size == 0) = false := by
        rw [beq_eq_false_iff_ne]
        omega
      rw [escapeByIndex, escapeFrom, ih (by omega), later]
      congr 1
      by_cases space : character = ' '
      · subst space
        rw [space_isLast_iff whole]
      · exact escapeChar_last space _ _

/-! What the escaper leaves alone. -/

/-- Whether nothing in a value is to stand behind a backslash. -/
def isUntouched (rules : EscapeRules) (first : Bool) (value : List Char) : Bool :=
  match value with
  | [] => true
  | character :: rest =>
      !(character == '\x00' || rules.protects first rest.isEmpty character) &&
        isUntouched rules false rest

theorem isUntouched_cons_iff {character : Char} {rest : List Char} :
    isUntouched rules first (character :: rest) = true ↔
      (character ≠ '\x00' ∧ rules.protects first rest.isEmpty character = false) ∧
        isUntouched rules false rest = true := by
  simp [isUntouched]

theorem escapeChar_of_untouched {character : Char} {last : Bool} (noNul : character ≠ '\x00')
    (bare : rules.protects first last character = false) :
    escapeChar rules hexed first last character =
      if hexed && !isPrintableAscii character then hexPairs character else [character] := by
  rw [escapeChar, if_neg noNul, if_neg (by simp [bare])]

theorem escapeChar_of_touched {character : Char} {last : Bool}
    (touched : character = '\x00' ∨ rules.protects first last character = true) :
    escapeChar rules false first last character = ['\\', character] := by
  unfold escapeChar
  split
  · rfl
  · next noNul => rw [if_pos (touched.resolve_left noNul)]

/-- Nothing is taken away by escaping. -/
theorem length_le_escapeFrom (rules : EscapeRules) (first : Bool) (value : List Char) :
    value.length ≤ (escapeFrom rules false first value).length := by
  induction value generalizing first with
  | nil => exact Nat.zero_le _
  | cons character rest ih =>
      have written : 0 < (escapeChar rules false first rest.isEmpty character).length := by
        unfold escapeChar
        split
        · exact Nat.zero_lt_succ _
        · split <;> exact Nat.zero_lt_succ _
      have later := ih false
      rw [escapeFrom, List.length_append, List.length_cons]
      omega

theorem escapeFrom_eq_self_iff (rules : EscapeRules) (first : Bool) (value : List Char) :
    escapeFrom rules false first value = value ↔ isUntouched rules first value = true := by
  induction value generalizing first with
  | nil => exact iff_of_true rfl rfl
  | cons character rest ih =>
      rw [escapeFrom, isUntouched_cons_iff]
      by_cases touched : character = '\x00' ∨ rules.protects first rest.isEmpty character = true
      · -- The backslash makes the text longer, and what comes after it cannot make up for that.
        rw [escapeChar_of_touched touched]
        refine iff_of_false (fun same => ?_) (by grind)
        have longer := length_le_escapeFrom rules false rest
        have lengths := congrArg List.length same
        simp only [List.length_append, List.length_cons, List.length_nil] at lengths
        omega
      · obtain ⟨noNul, bare⟩ := not_or.mp touched
        rw [escapeChar_of_untouched noNul (by simpa using bare)]
        simp [noNul, bare, ih]

theorem protects_ldap_eq_false_iff (first last : Bool) (character : Char) :
    EscapeRules.ldap.protects first last character = false ↔
      character ∉ EscapeRules.ldap.specials ∧ (first = true → character ≠ '#') ∧
        (first = true ∨ last = true → character ≠ ' ') := by
  have edges : EscapeRules.ldap.leadingHash = true ∧ EscapeRules.ldap.edgeSpaces = true :=
    ⟨rfl, rfl⟩
  simp [EscapeRules.protects, edges, and_assoc]

theorem isUntouched_ldap_iff (first : Bool) (value : List Char) :
    isUntouched .ldap first value = true ↔
      (first = true → value.head? ≠ some ' ' ∧ value.head? ≠ some '#') ∧
        value.getLast? ≠ some ' ' ∧
        ∀ character ∈ value, character ≠ '\x00' ∧ character ∉ EscapeRules.ldap.specials := by
  induction value generalizing first with
  | nil => simp [isUntouched]
  | cons character rest ih =>
      simp only [isUntouched_cons_iff, ih, protects_ldap_eq_false_iff, List.head?_cons,
        List.forall_mem_cons]
      cases rest with
      | nil =>
          simp only [List.isEmpty_nil, List.getLast?_singleton, List.getLast?_nil, ne_eq,
            Option.some_inj]
          grind
      | cons next rest =>
          simp only [List.isEmpty_cons, List.getLast?_cons_cons, ne_eq, Option.some_inj]
          grind

theorem needsQuotes_eq_false_iff (value : List Char) :
    needsQuotes value = false ↔ isUntouched .ldap true value = true := by
  simp [isUntouched_ldap_iff, needsQuotes, and_assoc]

/-- Quotes where the escaper would do anything. -/
theorem needsQuotes_iff (value : List Char) :
    needsQuotes value = true ↔ escape .ldap false value ≠ value := by
  rw [escape, ne_eq, escapeFrom_eq_self_iff, ← needsQuotes_eq_false_iff, Bool.not_eq_false]

end Escape

/-! Backslashes outside quotes. -/

namespace Text

/-- Every backslash stands in front of the two digits of an octet. -/
def OnlyPairs (text : List Char) : Prop :=
  ∀ before after, text = before ++ '\\' :: after → ∃ octet, Octet.hexPair octet <+: after

namespace OnlyPairs

variable {first second : List Char}

theorem of_free (free : '\\' ∉ first) : OnlyPairs first := by
  rintro before after rfl
  exact absurd (List.mem_append_right before List.mem_cons_self) free

theorem append (firstPairs : OnlyPairs first) (secondPairs : OnlyPairs second) :
    OnlyPairs (first ++ second) := by
  intro before after same
  rcases List.append_eq_append_iff.mp same with ⟨more, rfl, cut⟩ | ⟨more, rfl, cut⟩
  · exact secondPairs _ _ cut
  · cases more with
    | nil => exact secondPairs [] after cut.symm
    | cons backslash more =>
        obtain ⟨rfl, rfl⟩ := List.cons.inj cut
        obtain ⟨octet, stands⟩ := firstPairs before more rfl
        exact ⟨octet, stands.trans (List.prefix_append _ _)⟩

theorem hexPair (octet : UInt8) : OnlyPairs ('\\' :: Octet.hexPair octet) := by
  intro before after same
  cases before with
  | nil =>
      obtain ⟨_, rfl⟩ := List.cons.inj same
      exact ⟨octet, List.prefix_refl _⟩
  | cons first before =>
      have digit : '\\' ∈ Octet.hexPair octet := by
        rw [(List.cons.inj same).2]
        exact List.mem_append_right before List.mem_cons_self
      exact absurd (Octet.hexDigits_of_mem_hexPair digit) (by decide)

theorem hexPairs (character : Char) : OnlyPairs (Escape.hexPairs character) := by
  rw [Escape.hexPairs]
  induction String.utf8EncodeChar character with
  | nil => exact .of_free List.not_mem_nil
  | cons octet octets ih => exact (hexPair octet).append ih

end OnlyPairs

end Text

namespace Escape

variable {hexed first : Bool} {value : List Char}

theorem escapeFrom_onlyPairs (untouched : isUntouched .ldap first value = true) :
    Text.OnlyPairs (escapeFrom .ldap hexed first value) := by
  induction value generalizing first with
  | nil => exact .of_free List.not_mem_nil
  | cons character rest ih =>
      obtain ⟨⟨noNul, bare⟩, later⟩ := isUntouched_cons_iff.mp untouched
      refine Text.OnlyPairs.append ?_ (ih later)
      rw [escapeChar_of_untouched noNul bare]
      split
      · exact .hexPairs character
      · refine .of_free fun backslash => ?_
        obtain rfl := List.mem_singleton.mp backslash
        exact ((protects_ldap_eq_false_iff _ _ _).mp bare).1 (by decide)

/-- What is left alone has no quote, and nothing that is written for it has one. -/
theorem quote_not_mem_escapeFrom (untouched : isUntouched .ldap first value = true) :
    '"' ∉ escapeFrom .ldap hexed first value := by
  intro member
  rcases mem_of_mem_escapeFrom member with inside | backslash | digit
  · exact ((isUntouched_ldap_iff first value).mp untouched).2.2 _ inside |>.2 (by decide)
  · cases backslash
  · exact absurd digit (by decide)

end Escape

namespace Ava

variable {ava : Ava}

theorem writeQuotable_of_bare (textual : ava.flags.isBinary = false)
    (bare : Escape.needsQuotes ava.value.toList = false) :
    ava.writeQuotable = Escape.escape .ldap ava.flags.isNonprintable ava.value.toList := by
  simp [writeQuotable, writeValue, textual, bare]

theorem head?_writeQuotable_iff (textual : ava.flags.isBinary = false) :
    ava.writeQuotable.head? = some '"' ↔ Escape.needsQuotes ava.value.toList = true := by
  cases quoted : Escape.needsQuotes ava.value.toList with
  | true => simp [writeQuotable, textual, quoted, Escape.quote]
  | false =>
      rw [writeQuotable_of_bare textual quoted]
      refine iff_of_false (fun head => ?_) Bool.false_ne_true
      exact Escape.quote_not_mem_escapeFrom
        ((Escape.needsQuotes_eq_false_iff _).mp quoted) (List.mem_of_head? head)

/-- Without quotes a value has no backslash but for pairs, and where nothing is to be written as
a pair it stands as it is. -/
theorem writeQuotable_unquoted (textual : ava.flags.isBinary = false)
    (unquoted : ava.writeQuotable.head? ≠ some '"') :
    Text.OnlyPairs ava.writeQuotable ∧
      (ava.flags.isNonprintable = false → ava.writeQuotable = ava.value.toList) := by
  rw [ne_eq, head?_writeQuotable_iff textual, Bool.not_eq_true] at unquoted
  have untouched := (Escape.needsQuotes_eq_false_iff _).mp unquoted
  rw [writeQuotable_of_bare textual unquoted]
  refine ⟨Escape.escapeFrom_onlyPairs untouched, fun plain => ?_⟩
  rw [plain]
  exact (Escape.escapeFrom_eq_self_iff _ _ _).mpr untouched

end Ava

namespace Dn

theorem build_ldapV2 {name : Dn} {flags : NameFlags} {text : String}
    (format : flags.format? = some .ldapV2) (built : name.build flags = .ok text) :
    text.toList = name.writeLdapV2 := by
  by_cases isRoot : name = root
  · subst isRoot
    rw [build_root format] at built
    cases built
    rfl
  · exact (Except.ok.inj (write_of_build format isRoot built).2).symm

/-- A value needs quotes exactly where the escaper would change it, whether one looks at its
octets or goes over its characters. In a name with quotes, a value that is text stands in quotes
if it needs them; else a backslash in it begins a hexadecimal pair, and there is none where the
flags do not ask for pairs. -/
theorem build_quotes_what_is_escaped :
    (∀ value : String,
      (Escape.needsQuotes value.toList = true ↔ escapeValue value ≠ value) ∧
        Escape.needsQuotes value.toList = Escape.octetsNeedQuotes (octetsOf value) ∧
        (escapeValue value).toList =
          Escape.escapeByIndex .ldap false (octetsOf value).length 0 value.toList) ∧
    ∀ (name : Dn) (flags : NameFlags) (text : String),
      flags.format? = some .ldapV2 → name.build flags = .ok text →
        text.toList =
            [','].intercalate (name.rdns.map (Rdn.write ['+'] (Ava.write Ava.writeQuotable))) ∧
          ∀ rdn ∈ name.rdns, ∀ ava ∈ rdn.avas, ava.flags.isBinary = false →
            (ava.writeQuotable.head? = some '"' ↔ Escape.needsQuotes ava.value.toList = true) ∧
              (ava.writeQuotable.head? ≠ some '"' →
                Text.OnlyPairs ava.writeQuotable ∧
                  (ava.flags.isNonprintable = false →
                    ava.writeQuotable = ava.value.toList)) := by
  constructor
  · intro value
    refine ⟨?_, Escape.needsQuotes_eq_octets _, ?_⟩
    · rw [Escape.needsQuotes_iff, ne_eq, ne_eq, ← String.toList_inj, escapeValue,
        String.toList_ofList]
    · rw [escapeValue, String.toList_ofList, octetsOf, Escape.escapeByIndex_eq (Nat.zero_add _)]
      rfl
  · intro name flags text format built
    refine ⟨build_ldapV2 format built, fun rdn _ ava _ textual => ?_⟩
    exact ⟨Ava.head?_writeQuotable_iff textual, Ava.writeQuotable_unquoted textual⟩

theorem build_quotes_what_is_escaped_wide :
    (⟨0x20⟩ : NameFlags).format? = some .ldapV2 ∧
      build ⟨[⟨.string "cn" "a, b", [⟨"ou", "b\u00E4", .nonprintable⟩]⟩,
          ⟨.string "dc" "x\u00E4", []⟩]⟩ ⟨0x20⟩ =
        .ok "cn=\"a, b\"+ou=b\\c3\\a4,dc=x\u00E4" ∧
      (Ava.string "cn" "a, b").writeQuotable.head? = some '"' ∧
      Text.OnlyPairs (Ava.writeQuotable ⟨"ou", "b\u00E4", .nonprintable⟩) ∧
      (Ava.string "dc" "x\u00E4").writeQuotable = ['x', '\u00E4'] := by
  have format : (⟨0x20⟩ : NameFlags).format? = some .ldapV2 := by decide
  have built : build ⟨[⟨.string "cn" "a, b", [⟨"ou", "b\u00E4", .nonprintable⟩]⟩,
      ⟨.string "dc" "x\u00E4", []⟩]⟩ ⟨0x20⟩ =
        .ok "cn=\"a, b\"+ou=b\\c3\\a4,dc=x\u00E4" := by
    decide +kernel
  obtain ⟨-, values⟩ := build_quotes_what_is_escaped.2 _ _ _ format built
  obtain ⟨first, second⟩ := List.forall_mem_cons.mp values
  obtain ⟨name, others⟩ := List.forall_mem_cons.mp first
  have unit := List.forall_mem_singleton.mp others (by decide)
  have domain := List.forall_mem_singleton.mp (List.forall_mem_singleton.mp second) (by decide)
  refine ⟨format, built, (name (by decide)).1.mpr (by decide), (unit.2 (by decide +kernel)).1, ?_⟩
  exact (domain.2 (by decide +kernel)).2 (by decide)

end Dn

end DirectoryName

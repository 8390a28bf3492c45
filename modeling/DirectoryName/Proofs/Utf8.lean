import DirectoryName.Utf8

namespace DirectoryName.Utf8

/-! Decoding and encoding are inverse to each other: the octets that decode to a
text are those of its encoding, and there are no others. -/

theorem isTail_iff (octet : UInt8) :
    isTail octet = true ↔ 0x80 ≤ octet.toNat ∧ octet.toNat ≤ 0xBF := by
  simp only [isTail, Bool.and_eq_true, decide_eq_true_eq, UInt8.le_iff_toNat_le]
  rfl

theorem toNat_of_isTail {octet : UInt8} (tail : isTail octet = true) :
    octet.toNat = tailBits octet + 0x80 ∧ tailBits octet < 0x40 := by
  rw [isTail_iff] at tail
  unfold tailBits
  omega

theorem isTail_ofNat {bits : Nat} (small : bits < 0x40) :
    isTail (UInt8.ofNat (bits + 0x80)) = true := by
  rw [isTail_iff, UInt8.toNat_ofNat']
  omega

theorem tailBits_ofNat {bits : Nat} (small : bits < 0x40) :
    tailBits (UInt8.ofNat (bits + 0x80)) = bits := by
  have value : (UInt8.ofNat (bits + 0x80)).toNat = bits + 0x80 := by
    rw [UInt8.toNat_ofNat']
    omega
  unfold tailBits
  omega

theorem announced_eq (lead : UInt8) :
    announced lead =
      if lead.toNat < 0x80 then some 1
      else if 0xC2 ≤ lead.toNat ∧ lead.toNat ≤ 0xDF then some 2
      else if 0xE0 ≤ lead.toNat ∧ lead.toNat ≤ 0xEF then some 3
      else if 0xF0 ≤ lead.toNat ∧ lead.toNat ≤ 0xF4 then some 4
      else none := by
  simp only [announced, Bool.and_eq_true, decide_eq_true_eq, UInt8.lt_iff_toNat_lt,
    UInt8.le_iff_toNat_le]
  rfl

theorem allowed_three {code : Nat} :
    allowed 3 code = true ↔ 0x800 ≤ code ∧ ¬(0xD800 ≤ code ∧ code ≤ 0xDFFF) := by
  simp only [allowed, Bool.and_eq_true, Bool.not_eq_true', decide_eq_true_eq, ← Bool.not_eq_true]

theorem allowed_four {code : Nat} :
    allowed 4 code = true ↔ 0x10000 ≤ code ∧ code ≤ 0x10FFFF := by
  simp [allowed]

/-- The encoding of a code point, by its size. -/
theorem encodeChar_ofNat {code : Nat} (valid : code.isValidChar) :
    String.utf8EncodeChar (Char.ofNat code) =
      if code ≤ 0x7F then [UInt8.ofNat code]
      else if code ≤ 0x7FF then
        [UInt8.ofNat (code / 0x40 % 0x20 + 0xC0), UInt8.ofNat (code % 0x40 + 0x80)]
      else if code ≤ 0xFFFF then
        [UInt8.ofNat (code / 0x1000 % 0x10 + 0xE0), UInt8.ofNat (code / 0x40 % 0x40 + 0x80),
          UInt8.ofNat (code % 0x40 + 0x80)]
      else
        [UInt8.ofNat (code / 0x40000 % 0x08 + 0xF0), UInt8.ofNat (code / 0x1000 % 0x40 + 0x80),
          UInt8.ofNat (code / 0x40 % 0x40 + 0x80), UInt8.ofNat (code % 0x40 + 0x80)] := by
  have same : (Char.ofNat code).val.toNat = code := by
    rw [Char.ofNat, dif_pos valid]
    rfl
  simp only [String.utf8EncodeChar, same]

theorem exists_code (character : Char) :
    ∃ code : Nat, code.isValidChar ∧ Char.ofNat code = character :=
  ⟨character.toNat, character.valid, Char.ofNat_toNat character⟩

theorem decodeChar?_encodeChar (character : Char) (rest : List UInt8) :
    decodeChar? (String.utf8EncodeChar character ++ rest) = some (character, rest) := by
  obtain ⟨code, valid, rfl⟩ := exists_code character
  rw [encodeChar_ofNat valid]
  simp only [Nat.isValidChar] at valid
  have bits : ∀ value, value % 0x40 < 0x40 := fun value => Nat.mod_lt value (by decide)
  split
  · have value : (UInt8.ofNat code).toNat = code := by
      rw [UInt8.toNat_ofNat']
      omega
    have lead : announced (UInt8.ofNat code) = some 1 := by
      rw [announced_eq, value, if_pos (by omega)]
    simp only [List.cons_append, List.nil_append, decodeChar?, lead, value]
  split
  · have value : (UInt8.ofNat (code / 0x40 % 0x20 + 0xC0)).toNat = code / 0x40 + 0xC0 := by
      rw [UInt8.toNat_ofNat']
      omega
    have lead : announced (UInt8.ofNat (code / 0x40 % 0x20 + 0xC0)) = some 2 := by
      rw [announced_eq, value, if_neg (by omega), if_pos (by omega)]
    have total : (code / 0x40 + 0xC0 - 0xC0) * 0x40 + code % 0x40 = code := by omega
    simp only [List.cons_append, List.nil_append, decodeChar?, lead, value, total,
      isTail_ofNat (bits _), tailBits_ofNat (bits _), if_true]
  split
  · have value : (UInt8.ofNat (code / 0x1000 % 0x10 + 0xE0)).toNat = code / 0x1000 + 0xE0 := by
      rw [UInt8.toNat_ofNat']
      omega
    have lead : announced (UInt8.ofNat (code / 0x1000 % 0x10 + 0xE0)) = some 3 := by
      rw [announced_eq, value, if_neg (by omega), if_neg (by omega), if_pos (by omega)]
    have total : (code / 0x1000 + 0xE0 - 0xE0) * 0x1000 + code / 0x40 % 0x40 * 0x40 +
        code % 0x40 = code := by omega
    have inRange : allowed 3 code = true := allowed_three.mpr (by omega)
    simp only [List.cons_append, List.nil_append, decodeChar?, lead, value, total, inRange,
      isTail_ofNat (bits _), tailBits_ofNat (bits _), Bool.and_self, if_true]
  · have value : (UInt8.ofNat (code / 0x40000 % 0x08 + 0xF0)).toNat = code / 0x40000 + 0xF0 := by
      rw [UInt8.toNat_ofNat']
      omega
    have lead : announced (UInt8.ofNat (code / 0x40000 % 0x08 + 0xF0)) = some 4 := by
      rw [announced_eq, value, if_neg (by omega), if_neg (by omega), if_neg (by omega),
        if_pos (by omega)]
    have total : (code / 0x40000 + 0xF0 - 0xF0) * 0x40000 + code / 0x1000 % 0x40 * 0x1000 +
        code / 0x40 % 0x40 * 0x40 + code % 0x40 = code := by omega
    have inRange : allowed 4 code = true := allowed_four.mpr (by omega)
    simp only [List.cons_append, List.nil_append, decodeChar?, lead, value, total, inRange,
      isTail_ofNat (bits _), tailBits_ofNat (bits _), Bool.and_self, if_true]

theorem eq_ofNat {octet : UInt8} {value : Nat} (same : octet.toNat = value) :
    octet = UInt8.ofNat value := by
  rw [← same, UInt8.ofNat_toNat]

/-- Nothing but its own encoding decodes to a character. -/
theorem encodeChar_of_decodeChar? {octets rest : List UInt8} {character : Char}
    (decoded : decodeChar? octets = some (character, rest)) :
    octets = String.utf8EncodeChar character ++ rest := by
  unfold decodeChar? at decoded
  split at decoded
  · cases decoded
  next lead after =>
  have announces := announced_eq lead
  split at decoded
  · next one =>
      have range : lead.toNat < 0x80 := by grind
      simp only [Option.some.injEq, Prod.mk.injEq] at decoded
      obtain ⟨rfl, rfl⟩ := decoded
      rw [encodeChar_ofNat (by simp only [Nat.isValidChar]; omega), if_pos (by omega),
        UInt8.ofNat_toNat]
      rfl
  · next a remaining two =>
      have range : 0xC2 ≤ lead.toNat ∧ lead.toNat ≤ 0xDF := by grind
      simp only [Option.ite_none_right_eq_some, Option.some.injEq, Prod.mk.injEq] at decoded
      generalize total : (lead.toNat - 0xC0) * 0x40 + tailBits a = code at decoded
      obtain ⟨tail, rfl, rfl⟩ := decoded
      have second := toNat_of_isTail tail
      have leadSame : lead = UInt8.ofNat (code / 0x40 % 0x20 + 0xC0) := eq_ofNat (by omega)
      have aSame : a = UInt8.ofNat (code % 0x40 + 0x80) := eq_ofNat (by omega)
      rw [encodeChar_ofNat (by simp only [Nat.isValidChar]; omega), if_neg (by omega),
        if_pos (by omega), ← leadSame, ← aSame]
      rfl
  · next a b remaining three =>
      have range : 0xE0 ≤ lead.toNat ∧ lead.toNat ≤ 0xEF := by grind
      simp only [Option.ite_none_right_eq_some, Option.some.injEq, Prod.mk.injEq,
        Bool.and_eq_true] at decoded
      generalize total : (lead.toNat - 0xE0) * 0x1000 + tailBits a * 0x40 + tailBits b = code
        at decoded
      obtain ⟨⟨⟨aTail, bTail⟩, inRange⟩, rfl, rfl⟩ := decoded
      rw [allowed_three] at inRange
      have second := toNat_of_isTail aTail
      have third := toNat_of_isTail bTail
      have leadSame : lead = UInt8.ofNat (code / 0x1000 % 0x10 + 0xE0) := eq_ofNat (by omega)
      have aSame : a = UInt8.ofNat (code / 0x40 % 0x40 + 0x80) := eq_ofNat (by omega)
      have bSame : b = UInt8.ofNat (code % 0x40 + 0x80) := eq_ofNat (by omega)
      rw [encodeChar_ofNat (by simp only [Nat.isValidChar]; omega), if_neg (by omega),
        if_neg (by omega), if_pos (by omega), ← leadSame, ← aSame, ← bSame]
      rfl
  · next a b c remaining four =>
      have range : 0xF0 ≤ lead.toNat ∧ lead.toNat ≤ 0xF4 := by grind
      simp only [Option.ite_none_right_eq_some, Option.some.injEq, Prod.mk.injEq,
        Bool.and_eq_true] at decoded
      generalize total : (lead.toNat - 0xF0) * 0x40000 + tailBits a * 0x1000 +
        tailBits b * 0x40 + tailBits c = code at decoded
      obtain ⟨⟨⟨⟨aTail, bTail⟩, cTail⟩, inRange⟩, rfl, rfl⟩ := decoded
      rw [allowed_four] at inRange
      have second := toNat_of_isTail aTail
      have third := toNat_of_isTail bTail
      have fourth := toNat_of_isTail cTail
      have leadSame : lead = UInt8.ofNat (code / 0x40000 % 0x08 + 0xF0) := eq_ofNat (by omega)
      have aSame : a = UInt8.ofNat (code / 0x1000 % 0x40 + 0x80) := eq_ofNat (by omega)
      have bSame : b = UInt8.ofNat (code / 0x40 % 0x40 + 0x80) := eq_ofNat (by omega)
      have cSame : c = UInt8.ofNat (code % 0x40 + 0x80) := eq_ofNat (by omega)
      rw [encodeChar_ofNat (by simp only [Nat.isValidChar]; omega), if_neg (by omega),
        if_neg (by omega), if_neg (by omega), ← leadSame, ← aSame, ← bSame, ← cSame]
      rfl
  · cases decoded

theorem decode_encode (text : List Char) : decode (encode text) = .ok text := by
  induction text with
  | nil => rw [encode, List.flatMap_nil, decode]
  | cons first others ih =>
      have decoded := decodeChar?_encodeChar first (encode others)
      rw [encode, List.flatMap_cons, ← encode]
      cases split : String.utf8EncodeChar first ++ encode others with
      | nil => exact absurd (List.append_eq_nil_iff.mp split).1 String.utf8EncodeChar_ne_nil
      | cons lead rest =>
          rw [split] at decoded
          unfold decode
          grind

theorem encode_of_decode {octets : List UInt8} {text : List Char}
    (decoded : decode octets = .ok text) : octets = encode text := by
  fun_induction decode octets generalizing text with
  | case1 => cases decoded; rfl
  | case2 => cases decoded
  | case3 lead rest first remaining found others deeper ih =>
      cases decoded
      rw [encodeChar_of_decodeChar? found, ih deeper]
      rfl
  | case4 => cases decoded

/-- Octets decode to a text exactly when they are its encoding. -/
theorem decode_eq_ok_iff {octets : List UInt8} {text : List Char} :
    decode octets = .ok text ↔ octets = encode text := by
  constructor
  · exact encode_of_decode
  · intro same
    subst same
    exact decode_encode text

theorem encode_append (first second : List Char) :
    encode (first ++ second) = encode first ++ encode second :=
  List.flatMap_append

theorem encode_cons (first : Char) (others : List Char) :
    encode (first :: others) = String.utf8EncodeChar first ++ encode others :=
  List.flatMap_cons

theorem encodeChar_ascii {character : Char} (ascii : character.toNat < 0x80) :
    String.utf8EncodeChar character = [UInt8.ofNat character.toNat] := by
  have encoded := @encodeChar_ofNat character.toNat character.valid
  rw [if_pos (by omega), Char.ofNat_toNat] at encoded
  exact encoded

/-- Outside ASCII no octet of an encoding is that of an ASCII character. -/
theorem le_of_mem_encodeChar {character : Char} {octet : UInt8} (wide : 0x80 ≤ character.toNat)
    (member : octet ∈ String.utf8EncodeChar character) : 0x80 ≤ octet.toNat := by
  have encoded := @encodeChar_ofNat character.toNat character.valid
  rw [if_neg (by omega), Char.ofNat_toNat] at encoded
  rw [encoded] at member
  have high : ∀ value < 0x80, 0x80 ≤ (UInt8.ofNat (value + 0x80)).toNat := by
    intro value small
    rw [UInt8.toNat_ofNat']
    omega
  grind

end DirectoryName.Utf8

namespace DirectoryName

theorem octetsOf_ofList (text : List Char) :
    octetsOf (String.ofList text) = Utf8.encode text := by
  rw [octetsOf, String.toList_ofList]

theorem octetsOf_append (first second : String) :
    octetsOf (first ++ second) = octetsOf first ++ octetsOf second := by
  rw [octetsOf, String.toList_append, Utf8.encode_append, octetsOf, octetsOf]

theorem octetsOf_injective {first second : String}
    (same : octetsOf first = octetsOf second) : first = second := by
  have decoded := Utf8.decode_encode first.toList
  rw [show Utf8.encode first.toList = Utf8.encode second.toList from same,
    Utf8.decode_encode] at decoded
  exact (String.toList_inj.mp (Except.ok.inj decoded)).symm

theorem octetsOf_eq_nil_iff (text : String) : octetsOf text = [] ↔ text = "" := by
  constructor
  · exact fun none => octetsOf_injective (none.trans rfl)
  · intro empty
    subst empty
    rfl

end DirectoryName

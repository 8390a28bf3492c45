import DirectoryName.Proofs.Grammar
import DirectoryName.Proofs.Utf8

namespace DirectoryName

/-! Octets as characters, and hexadecimal digits. -/

namespace Octet

theorem forall_of_codes {holds : UInt8 → Prop} (each : ∀ code < 0x100, holds (UInt8.ofNat code))
    (octet : UInt8) : holds octet := by
  have found := each octet.toNat octet.toNat_lt
  rwa [UInt8.ofNat_toNat] at found

theorem isDigit_iff (octet : UInt8) :
    isDigit octet = true ↔ 0x30 ≤ octet.toNat ∧ octet.toNat ≤ 0x39 := by
  simp only [isDigit, Bool.and_eq_true, decide_eq_true_eq, UInt8.le_iff_toNat_le]
  rfl

theorem isLetter_iff (octet : UInt8) :
    isLetter octet = true ↔
      (0x41 ≤ octet.toNat ∧ octet.toNat ≤ 0x5A) ∨
        (0x61 ≤ octet.toNat ∧ octet.toNat ≤ 0x7A) := by
  simp only [isLetter, isUpper, isLower, Bool.or_eq_true, Bool.and_eq_true, decide_eq_true_eq,
    UInt8.le_iff_toNat_le]
  rfl

theorem isPrintable_iff (octet : UInt8) :
    isPrintable octet = true ↔ 0x20 ≤ octet ∧ octet ≤ 0x7E := by
  simp only [isPrintable, Bool.and_eq_true, decide_eq_true_eq]

theorem isKeyOctet_iff (octet : UInt8) :
    isKeyOctet octet = true ↔
      isLetter octet = true ∨ isDigit octet = true ∨ octet = hyphen := by
  simp only [isKeyOctet, Bool.or_eq_true, beq_iff_eq, or_assoc]

theorem isKeyOctet_ascii {octet : UInt8} (key : isKeyOctet octet = true) :
    octet.toNat < 0x80 := by
  rw [isKeyOctet_iff, isLetter_iff, isDigit_iff] at key
  rcases key with letter | digit | rfl
  · omega
  · omega
  · decide

theorem encodeChar_toChar {octet : UInt8} (ascii : octet.toNat < 0x80) :
    String.utf8EncodeChar (toChar octet) = [octet] := by
  have encoded := @Utf8.encodeChar_ofNat octet.toNat (.inl (by omega))
  rw [if_pos (by omega), UInt8.ofNat_toNat] at encoded
  exact encoded

/-- An ASCII octet occurs in the encoding of its own character only. -/
theorem eq_toChar_of_mem {octet : UInt8} {character : Char} (ascii : octet.toNat < 0x80)
    (member : octet ∈ String.utf8EncodeChar character) : character = toChar octet := by
  by_cases wide : 0x80 ≤ character.toNat
  · have large := Utf8.le_of_mem_encodeChar wide member
    omega
  · rw [Utf8.encodeChar_ascii (by omega), List.mem_singleton] at member
    rw [member, toChar, UInt8.toNat_ofNat', Nat.mod_eq_of_lt (by omega), Char.ofNat_toNat]

theorem octetsOf_textOf {octets : List UInt8} (ascii : ∀ octet ∈ octets, octet.toNat < 0x80) :
    octetsOf (textOf octets) = octets := by
  rw [textOf, octetsOf_ofList]
  induction octets with
  | nil => rfl
  | cons first others ih =>
      rw [List.map_cons, Utf8.encode_cons, ih fun octet member => ascii octet (by simp [member]),
        encodeChar_toChar (ascii first (by simp))]
      rfl

theorem textOf_octetsOf {text : String} (ascii : ∀ octet ∈ octetsOf text, octet.toNat < 0x80) :
    textOf (octetsOf text) = text :=
  octetsOf_injective (octetsOf_textOf ascii)

theorem hexValue?_cases {octet value : UInt8} :
    hexValue? octet = some value ↔
      (value < 10 ∧ octet = 0x30 + value) ∨
        (10 ≤ value ∧ value < 16 ∧
          (octet = 0x61 + (value - 10) ∨ octet = 0x41 + (value - 10))) := by
  unfold hexValue? isDigit
  grind

theorem hexValue?_eq_some_iff {octet value : UInt8} :
    hexValue? octet = some value ↔ HexDigit octet value := by
  rw [hexValue?_cases]
  constructor
  · intro found
    rcases found with ⟨below, rfl⟩ | ⟨above, below, rfl | rfl⟩
    · exact .decimal value below
    · exact .lower value above below
    · exact .upper value above below
  · intro digit
    cases digit with
    | decimal value below => exact .inl ⟨below, rfl⟩
    | lower value above below => exact .inr ⟨above, below, .inl rfl⟩
    | upper value above below => exact .inr ⟨above, below, .inr rfl⟩

theorem hexValue?_eq_none_iff {octet : UInt8} :
    hexValue? octet = none ↔ ∀ value, ¬HexDigit octet value := by
  simp only [Option.eq_none_iff_forall_ne_some, ne_eq, hexValue?_eq_some_iff]

/-- A digit is neither a delimiter nor a space. -/
theorem HexDigit.isKeyOctet {octet value : UInt8} (digit : HexDigit octet value) :
    Octet.isKeyOctet octet = true := by
  rw [← hexValue?_eq_some_iff, hexValue?_cases] at digit
  simp only [isKeyOctet_iff, isLetter, isUpper, isLower, isDigit, Bool.or_eq_true,
    Bool.and_eq_true, decide_eq_true_eq]
  grind

end Octet

end DirectoryName

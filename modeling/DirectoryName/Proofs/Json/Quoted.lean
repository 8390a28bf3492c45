import DirectoryName.Json.Quoted

namespace DirectoryName.Json

/-! Strings through JSON text.

Whatever its characters are, control characters among them, a string is read back from
its quoted form. -/

variable {after remaining others rest : List Char}

theorem readString_escape {character : Char}
    (escape : readEscape after = some (character, remaining))
    (deeper : readString remaining = some (others, rest)) :
    readString ('\\' :: after) = some (character :: others, rest) := by
  rw [readString, if_neg (by decide), if_pos rfl]
  grind

theorem readString_plain {character : Char} (noQuote : character ≠ '"')
    (noBackslash : character ≠ '\\') (visible : ¬character.toNat < 0x20)
    (deeper : readString after = some (others, rest)) :
    readString (character :: after) = some (character :: others, rest) := by
  rw [readString, if_neg noQuote, if_neg noBackslash, if_neg visible, deeper]

theorem digitValue?_digitChar : ∀ digit < 16, Text.digitValue? 16 (Nat.digitChar digit) = some digit := by
  decide

theorem readUnit_control {code : Nat} (control : code < 0x20) (rest : List Char) :
    readUnit ('0' :: '0' :: Nat.digitChar (code / 16) :: Nat.digitChar (code % 16) :: rest) =
      some (code, rest) := by
  have zero : Text.digitValue? 16 '0' = some 0 := by decide
  have high := digitValue?_digitChar (code / 16) (by omega)
  have low := digitValue?_digitChar (code % 16) (by omega)
  have total : 0 * 0x1000 + 0 * 0x100 + code / 16 * 0x10 + code % 16 = code := by omega
  simp only [readUnit, zero, high, low, Option.bind_eq_bind, Option.bind_some, total]
  rfl

/-- No control character is one half of a surrogate pair. -/
theorem readCodePoint_control {character : Char} (control : character.toNat < 0x20)
    (rest : List Char) :
    readCodePoint ('0' :: '0' :: Nat.digitChar (character.toNat / 16) ::
      Nat.digitChar (character.toNat % 16) :: rest) = some (character, rest) := by
  have high : (decide (0xD800 ≤ character.toNat) && decide (character.toNat ≤ 0xDBFF)) = false := by
    rw [decide_eq_false (by omega), Bool.false_and]
  have low : (decide (0xDC00 ≤ character.toNat) && decide (character.toNat ≤ 0xDFFF)) = false := by
    rw [decide_eq_false (by omega), Bool.false_and]
  simp only [readCodePoint, readUnit_control control, high, low, Bool.false_eq_true, if_false,
    Char.ofNat_toNat]

theorem readString_escapedChar (character : Char) (deeper : readString after = some (others, rest)) :
    readString (escapedChar character ++ after) = some (character :: others, rest) := by
  unfold escapedChar
  split
  · next special =>
      have escape : readEscape (character :: after) = some (character, after) := by
        rw [Bool.or_eq_true, decide_eq_true_eq, decide_eq_true_eq] at special
        obtain rfl | rfl := special <;> rfl
      exact readString_escape escape deeper
  next plain =>
  rw [Bool.or_eq_true, decide_eq_true_eq, decide_eq_true_eq, not_or] at plain
  -- The control characters that have a letter of their own.
  iterate 5
    split
    · next same =>
        subst same
        exact readString_escape rfl deeper
  split
  · next control => exact readString_escape (readCodePoint_control control after) deeper
  · next visible => exact readString_plain plain.1 plain.2 visible deeper

/-- A string comes back from its quoted form, whatever follows. -/
theorem readString_escaped (value rest : List Char) :
    readString (value.flatMap escapedChar ++ '"' :: rest) = some (value, rest) := by
  induction value with
  | nil => rw [List.flatMap_nil, List.nil_append, readString, if_pos rfl]
  | cons character others ih =>
      rw [List.flatMap_cons, List.append_assoc]
      exact readString_escapedChar character ih

end DirectoryName.Json

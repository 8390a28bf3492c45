import DirectoryName.Json.Number
import Mathlib.Tactic.IntervalCases

namespace DirectoryName.Json

/-! Natural numbers through JSON text.

A number of 64 bits is written with its digits alone and read back from them, whatever
follows that is not a part of a number. -/

/-- Neither a digit nor what begins a fraction or an exponent comes next. -/
def EndsNumber (text : List Char) : Prop :=
  ∀ next rest, text = next :: rest →
    next.isDigit = false ∧ next ≠ '.' ∧ next ≠ 'e' ∧ next ≠ 'E'

theorem isDigit_of_mem_digits {value : Nat} {digit : Char} (member : digit ∈ Nat.toDigits 10 value) :
    digit.isDigit = true :=
  Nat.isDigit_of_mem_toDigits (by decide) (by decide) member

theorem digitsValue_digits (value : Nat) : digitsValue (Nat.toDigits 10 value) = value := by
  have number := Nat.ofDigitChars_toDigits (b := 10) (n := value) (by decide) (by decide)
  simp only [Nat.ofDigitChars, Nat.mul_comm 10] at number
  exact number

theorem head?_digits_ne_zero {value : Nat} (positive : 0 < value) :
    (Nat.toDigits 10 value).head? ≠ some '0' := by
  induction value using Nat.strongRecOn with
  | ind value ih =>
      by_cases single : value < 10
      · rw [Nat.toDigits_of_lt_base single]
        interval_cases value <;> decide
      · rw [Nat.toDigits_of_base_le (by decide) (Nat.le_of_not_lt single), List.head?_append]
        have leading := ih (value / 10) (by omega) (by omega)
        cases head : (Nat.toDigits 10 (value / 10)).head? with
        | none => exact absurd (List.head?_eq_none_iff.mp head) Nat.toDigits_ne_nil
        | some first =>
            rw [head] at leading
            exact leading

theorem digits_noLeadingZero (value : Nat) :
    ((Nat.toDigits 10 value).head? == some '0' && (Nat.toDigits 10 value).length != 1) = false := by
  cases value with
  | zero => decide
  | succ value =>
      have leading := head?_digits_ne_zero (Nat.succ_pos value)
      simp [leading]

/-- The number whose digits are those of `total` and then these. -/
def digitsOnto (total : Nat) (digits : List Char) : Nat :=
  digits.foldl (fun total digit => total * 10 + (digit.toNat - 0x30)) total

theorem digitsOnto_cons (total : Nat) (first : Char) (rest : List Char) :
    digitsOnto total (first :: rest) = digitsOnto (total * 10 + (first.toNat - 0x30)) rest := by
  rw [digitsOnto, List.foldl_cons, digitsOnto]

theorem le_digitsOnto (total : Nat) (digits : List Char) : total ≤ digitsOnto total digits := by
  induction digits generalizing total with
  | nil => exact Nat.le_refl total
  | cons first rest ih =>
      exact Nat.le_trans (by omega) (ih (total * 10 + (first.toNat - 0x30)))

theorem takeDigits_nil (total : Nat) : takeDigits total [] = (total, []) := rfl

theorem takeDigits_cons (total : Nat) (first : Char) (rest : List Char) :
    takeDigits total (first :: rest) =
      if total * 10 + (first.toNat - 0x30) < 2 ^ 64 then
        takeDigits (total * 10 + (first.toNat - 0x30)) rest
      else (total, first :: rest) := rfl

/-- Digits are taken in as long as the number stays below 2^64. -/
theorem takeDigits_of_fits {total : Nat} {digits : List Char}
    (fits : digitsOnto total digits < 2 ^ 64) :
    takeDigits total digits = (digitsOnto total digits, []) := by
  induction digits generalizing total with
  | nil => rfl
  | cons first rest ih =>
      rw [digitsOnto_cons] at fits ⊢
      rw [takeDigits_cons, if_pos (Nat.lt_of_le_of_lt (le_digitsOnto _ rest) fits)]
      exact ih fits

namespace Double

/-- Rounding to 53 bits at most doubles a number. -/
theorem round_le (value : Nat) : round value ≤ 2 * value := by
  by_cases zero : value = 0
  · subst zero
    decide
  have weight : unit value ≤ value :=
    Nat.le_trans (Nat.pow_le_pow_right (by decide) (Nat.sub_le _ _)) (Nat.log2_self_le zero)
  have quotient : roundDiv value (unit value) ≤ value / unit value + 1 := by
    unfold roundDiv
    grind
  calc round value
      ≤ (value / unit value + 1) * unit value := Nat.mul_le_mul_right _ quotient
    _ = value / unit value * unit value + unit value := Nat.succ_mul _ _
    _ ≤ value + value := Nat.add_le_add (Nat.div_mul_le_self _ _) weight
    _ = 2 * value := by omega

end Double

theorem Literal.not_isOutOfRange {value : Nat} (fits : value < 2 ^ 64) (text : List Char) :
    Literal.isOutOfRange ⟨false, Nat.toDigits 10 value, [], none, text⟩ = false := by
  have taken : takeDigits 0 (Nat.toDigits 10 value) = (value, []) := by
    have number : digitsOnto 0 (Nat.toDigits 10 value) = value := digitsValue_digits value
    rw [takeDigits_of_fits (number.symm ▸ fits), number]
  have scale : Literal.scale ⟨false, Nat.toDigits 10 value, [], none, text⟩ = .ofNat 0 := by
    simp [Literal.scale, Literal.leading, Literal.significand, taken, takeDigits_nil]
  have one : Double.round (Nat.pow 10 0) = 1 := by decide
  have limit : 2 * 2 ^ 64 < Double.limit := by decide +kernel
  have below : Double.round value * Double.round (Nat.pow 10 0) < Double.limit := by
    have rounded := Double.round_le value
    rw [one]
    omega
  have inRange : (decide (308 < 0) ||
      decide (Double.limit ≤ Double.round value * Double.round (Nat.pow 10 0))) = false := by
    rw [decide_eq_false (Nat.not_le_of_lt below)]
    rfl
  rw [isOutOfRange, scale, significand, leading, taken, takeDigits_nil]
  exact (congrArg (value != 0 && ·) inRange).trans (Bool.and_false _)

theorem EndsNumber.readFraction {rest : List Char} (ends : EndsNumber rest) :
    readFraction rest = some ([], rest) := by
  cases rest with
  | nil => rfl
  | cons next rest =>
      obtain ⟨-, dot, -⟩ := ends next rest rfl
      unfold Json.readFraction
      split
      · next same => exact absurd (List.cons.inj same).1 dot
      · rfl

theorem EndsNumber.readExponent {rest : List Char} (ends : EndsNumber rest) :
    readExponent rest = some (none, rest) := by
  cases rest with
  | nil => rfl
  | cons next rest =>
      obtain ⟨-, -, small, capital⟩ := ends next rest rfl
      unfold Json.readExponent
      split
      · next same => exact absurd (List.cons.inj same).1 small
      · next same => exact absurd (List.cons.inj same).1 capital
      · rfl

theorem EndsNumber.span {rest : List Char} (ends : EndsNumber rest) (value : Nat) :
    (Nat.toDigits 10 value ++ rest).takeWhile Char.isDigit = Nat.toDigits 10 value ∧
      (Nat.toDigits 10 value ++ rest).dropWhile Char.isDigit = rest := by
  have digits : ∀ digit ∈ Nat.toDigits 10 value, digit.isDigit = true :=
    fun _ member => isDigit_of_mem_digits member
  rw [List.takeWhile_append_of_pos digits, List.dropWhile_append_of_pos digits]
  cases rest with
  | nil => simp
  | cons next rest =>
      obtain ⟨other, -⟩ := ends next rest rfl
      simp [other]

/-- The digits of a number of 64 bits, and nothing behind them, are read as that number. -/
theorem readNumber_digits {value : Nat} {rest : List Char} (fits : value < 2 ^ 64)
    (ends : EndsNumber rest) :
    ∃ literal, readNumber (Nat.toDigits 10 value ++ rest) = some (literal, rest) ∧
      literal.scalar = .natural value := by
  have unsigned : readNumber (Nat.toDigits 10 value ++ rest) =
      readUnsigned false (Nat.toDigits 10 value ++ rest) (Nat.toDigits 10 value ++ rest) := by
    unfold readNumber
    split
    · next sign after same =>
        cases digits : Nat.toDigits 10 value with
        | nil => exact absurd digits Nat.toDigits_ne_nil
        | cons first others =>
            rw [digits] at same
            have digit : first.isDigit = true :=
              isDigit_of_mem_digits (digits ▸ List.mem_cons_self)
            rw [(List.cons.inj same).1] at digit
            exact absurd digit (by decide)
    · rfl
  obtain ⟨taken, dropped⟩ := ends.span value
  have begun : (Nat.toDigits 10 value).isEmpty = false :=
    List.isEmpty_eq_false_iff.mpr Nat.toDigits_ne_nil
  refine ⟨⟨false, Nat.toDigits 10 value, [], none, (Nat.toDigits 10 value ++ rest).take
    ((Nat.toDigits 10 value ++ rest).length - rest.length)⟩, ?_, ?_⟩
  · rw [unsigned, readUnsigned]
    simp only [taken, dropped, begun, digits_noLeadingZero, Bool.or_self, Bool.false_eq_true,
      if_false, ends.readFraction, ends.readExponent, Literal.not_isOutOfRange fits]
  · simp [Literal.scalar, digitsValue_digits]

end DirectoryName.Json

import DirectoryName.Json
import DirectoryName.Json.Double

namespace DirectoryName.Json

/-! The numbers of JSON text.

A number has digits, without a zero in front of others, perhaps a sign, a fraction
and an exponent. Its magnitude is taken as the product of two doubles, one for its
significand and one for a power of ten; a number whose product overflows is not
read. Near the limit the two roundings decide: 1.7976931348623158e308 overflows,
although the largest double is nearest to it. -/

structure Literal where
  negative : Bool
  whole : List Char
  fraction : List Char
  exponent : Option Int
  /-- The number as written. -/
  text : List Char
deriving Repr

/-- The digits on top of `total`, as long as they fit into 64 bits; also returns the
digits from the first that does not fit. -/
def takeDigits (total : Nat) (digits : List Char) : Nat × List Char :=
  match digits with
  | [] => (total, [])
  | first :: rest =>
      let next := total * 10 + (first.toNat - 0x30)
      if next < 2 ^ 64 then takeDigits next rest else (total, first :: rest)

def digitsValue (digits : List Char) : Nat :=
  digits.foldl (fun total digit => total * 10 + (digit.toNat - 0x30)) 0

namespace Literal

/-- The leading digits of the whole part that fit, and the digits that do not. -/
def leading (literal : Literal) : Nat × List Char :=
  takeDigits 0 literal.whole

/-- The significand, which takes in digits of the fraction too, and the digits of the
fraction that do not fit. -/
def significand (literal : Literal) : Nat × List Char :=
  takeDigits literal.leading.1 literal.fraction

/-- The power of ten that belongs to the significand: one up for every digit of the
whole part left out, one down for every digit of the fraction taken in. -/
def scale (literal : Literal) : Int :=
  literal.exponent.getD 0 + literal.leading.2.length -
    (literal.fraction.length - literal.significand.2.length : Nat)

/-- Whether the magnitude overflows. No power of ten above the 308th is a double, and
a significand of 64 bits cannot overflow when it is divided. -/
def isOutOfRange (literal : Literal) : Bool :=
  literal.significand.1 != 0 &&
    match literal.scale with
    | .ofNat power =>
        308 < power ||
          Double.limit ≤ Double.round literal.significand.1 * Double.round (Nat.pow 10 power)
    | .negSucc _ => false

/-- Plain digits are a natural number; even a zero has to go without a sign. -/
def scalar (literal : Literal) : Scalar :=
  if literal.negative || !literal.fraction.isEmpty || literal.exponent.isSome then
    .real (String.ofList literal.text)
  else .natural (digitsValue literal.whole)

end Literal

/-- The digits behind a dot, if there is one; a dot needs a digit. -/
def readFraction (text : List Char) : Option (List Char × List Char) :=
  match text with
  | '.' :: after =>
      if (after.takeWhile Char.isDigit).isEmpty then none
      else some (after.takeWhile Char.isDigit, after.dropWhile Char.isDigit)
  | _ => some ([], text)

/-- The digits of an exponent, of which there has to be one. -/
def readExponentDigits (negative : Bool) (text : List Char) : Option (Option Int × List Char) :=
  if (text.takeWhile Char.isDigit).isEmpty then none
  else
    let magnitude : Int := digitsValue (text.takeWhile Char.isDigit)
    some (some (if negative then -magnitude else magnitude), text.dropWhile Char.isDigit)

def readExponent (text : List Char) : Option (Option Int × List Char) :=
  match text with
  | 'e' :: after | 'E' :: after =>
      match after with
      | '+' :: digits => readExponentDigits false digits
      | '-' :: digits => readExponentDigits true digits
      | _ => readExponentDigits false after
  | _ => some (none, text)

/-- A number without its sign; `source` is the text from the sign on. -/
def readUnsigned (negative : Bool) (source text : List Char) : Option (Literal × List Char) :=
  let whole := text.takeWhile Char.isDigit
  if whole.isEmpty || (whole.head? == some '0' && whole.length != 1) then none
  else
    match readFraction (text.dropWhile Char.isDigit) with
    | none => none
    | some (fraction, afterFraction) =>
        match readExponent afterFraction with
        | none => none
        | some (exponent, rest) =>
            let literal : Literal :=
              ⟨negative, whole, fraction, exponent, source.take (source.length - rest.length)⟩
            if literal.isOutOfRange then none else some (literal, rest)

def readNumber (text : List Char) : Option (Literal × List Char) :=
  match text with
  | '-' :: unsigned => readUnsigned true text unsigned
  | _ => readUnsigned false text text

theorem dropDigits_length_le (text : List Char) :
    (text.dropWhile Char.isDigit).length ≤ text.length :=
  (List.dropWhile_sublist _).length_le

theorem readFraction_length_le {text digits rest : List Char}
    (read : readFraction text = some (digits, rest)) : rest.length ≤ text.length := by
  unfold readFraction at read
  split at read
  · split at read
    · cases read
    · cases read
      exact Nat.le_succ_of_le (dropDigits_length_le _)
  · cases read
    exact Nat.le_refl _

theorem readExponentDigits_length_le {negative : Bool} {text rest : List Char}
    {exponent : Option Int} (read : readExponentDigits negative text = some (exponent, rest)) :
    rest.length ≤ text.length := by
  unfold readExponentDigits at read
  split at read
  · cases read
  · cases read
    exact dropDigits_length_le text

theorem readExponent_length_le {text rest : List Char} {exponent : Option Int}
    (read : readExponent text = some (exponent, rest)) : rest.length ≤ text.length := by
  unfold readExponent at read
  split at read
  iterate 2
    split at read <;>
      have bound := readExponentDigits_length_le read <;>
      simp only [List.length_cons] <;>
      omega
  cases read
  exact Nat.le_refl _

theorem dropDigits_shorter {text : List Char} (some : (text.takeWhile Char.isDigit).isEmpty = false) :
    (text.dropWhile Char.isDigit).length < text.length := by
  have whole := congrArg List.length (List.takeWhile_append_dropWhile (p := Char.isDigit) (l := text))
  simp only [List.length_append] at whole
  have positive := List.length_pos_iff.mpr (List.isEmpty_eq_false_iff.mp some)
  omega

theorem readUnsigned_shorter {negative : Bool} {source text rest : List Char} {literal : Literal}
    (read : readUnsigned negative source text = some (literal, rest)) :
    rest.length < text.length := by
  simp only [readUnsigned] at read
  split at read
  · cases read
  · next accepted =>
      have begun : (text.takeWhile Char.isDigit).isEmpty = false := by
        cases empty : (text.takeWhile Char.isDigit).isEmpty with
        | false => rfl
        | true => simp [empty] at accepted
      split at read
      · cases read
      · next fractionRead =>
          split at read
          · cases read
          · next exponentRead =>
              split at read
              · cases read
              · cases read
                have := dropDigits_shorter begun
                have := readFraction_length_le fractionRead
                have := readExponent_length_le exponentRead
                omega

theorem readNumber_shorter {text rest : List Char} {literal : Literal}
    (read : readNumber text = some (literal, rest)) : rest.length < text.length := by
  unfold readNumber at read
  split at read
  · exact Nat.lt_succ_of_lt (readUnsigned_shorter read)
  · exact readUnsigned_shorter read

end DirectoryName.Json

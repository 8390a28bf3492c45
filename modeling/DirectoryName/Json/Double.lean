namespace DirectoryName.Json.Double

/-! Natural numbers as doubles.

A double has 53 significant bits. A natural number becomes the nearest one that has
no more, and of two equally near ones the one whose last significant bit is zero. -/

/-- The quotient rounded to the nearest natural number, halves to the even one. -/
def roundDiv (value divisor : Nat) : Nat :=
  let quotient := value / divisor
  let twice := 2 * (value % divisor)
  if twice < divisor || (twice == divisor && quotient % 2 == 0) then quotient else quotient + 1

/-- The weight of the last significant bit of a number. -/
def unit (value : Nat) : Nat :=
  Nat.pow 2 (value.log2 - 52)

def round (value : Nat) : Nat :=
  roundDiv value (unit value) * unit value

/-- The least number that overflows: halfway from the largest double to 2^1024. -/
def limit : Nat := Nat.pow 2 1024 - Nat.pow 2 970

end DirectoryName.Json.Double

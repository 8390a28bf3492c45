namespace DirectoryName.Text

/-! Sets of characters given by ranges of code points. -/

/-- Ranges of code points; both ends belong to a range. -/
abbrev CodeRanges := List (Nat × Nat)

def CodeRanges.holds (ranges : CodeRanges) (character : Char) : Bool :=
  ranges.any fun (first, last) => first ≤ character.toNat && character.toNat ≤ last

end DirectoryName.Text

namespace DirectoryName.Text

/-! Digits as they are read, in a radix of at most sixteen and of either case. -/

def digitValue? (radix : Nat) (character : Char) : Option Nat :=
  (value? character).filter (· < radix)
where
  value? (character : Char) : Option Nat :=
    if '0' ≤ character && character ≤ '9' then some (character.toNat - 0x30)
    else if 'a' ≤ character && character ≤ 'f' then some (character.toNat - 0x61 + 10)
    else if 'A' ≤ character && character ≤ 'F' then some (character.toNat - 0x41 + 10)
    else none

end DirectoryName.Text

import DirectoryName.Text.LetterCase.Table

namespace DirectoryName.Text

/-! Lowercase forms of text.

`asciiLower` folds the letters `A` to `Z` and nothing else. `lower` is the full
Unicode mapping: it may lengthen the text (U+0130 becomes two characters), and
it writes a capital sigma as `ς` where it ends a word and as `σ` elsewhere. -/

def asciiLowerChar (character : Char) : Char :=
  if 'A' ≤ character && character ≤ 'Z' then Char.ofNat (character.toNat + 32) else character

def asciiLower (text : String) : String :=
  String.ofList (text.toList.map asciiLowerChar)

namespace LetterCase

/-- Whether the nearest character that is not passed over has a case. -/
def meetsCased (neighbours : List Char) : Bool :=
  match neighbours.dropWhile ignorableRanges.holds with
  | [] => false
  | nearest :: _ => casedRanges.holds nearest

/-- A sigma ends a word when a cased character precedes it and none follows. -/
def sigmaForm (before after : List Char) : Char :=
  if meetsCased before && !meetsCased after then 'ς' else 'σ'

/-- The lowercase form of a character other than the capital sigma. -/
def lowerChar (character : Char) : List Char :=
  if character.toNat < 0x80 then [asciiLowerChar character]
  else if character = 'İ' then ['i', '\u0307']
  else
    match runs.findSome? (·.lower? character.toNat) with
    | some code => [Char.ofNat code]
    | none => [character]

/-- The lowercase form of `text` where `before` precedes it, nearest first. -/
def lowerAfter (before : List Char) (text : List Char) : List Char :=
  match text with
  | [] => []
  | first :: rest =>
      (if first = 'Σ' then [sigmaForm before rest] else lowerChar first) ++
        lowerAfter (first :: before) rest

end LetterCase

def lower (text : String) : String :=
  String.ofList (LetterCase.lowerAfter [] text.toList)

end DirectoryName.Text

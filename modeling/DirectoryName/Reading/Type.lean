import DirectoryName.Reading.Basic

namespace DirectoryName.Reading

/-! Attribute types as they are read.

A descriptor reaches as far as its letters, digits and hyphens do; a dotted
number as far as its digits and dots do. -/

/-- Passes over the word `oid.`, of any case, in front of a digit. -/
def dropOidWord (dialect : Dialect) (text : List UInt8) : List UInt8 :=
  match dialect, text with
  | .lenient, o :: i :: d :: dot :: digit :: rest =>
      if (o == 0x6F || o == 0x4F) && (i == 0x69 || i == 0x49) && (d == 0x64 || d == 0x44) &&
          dot == Octet.dot && Octet.isDigit digit then
        digit :: rest
      else
        text
  | _, _ => text

theorem dropOidWord_length_le (dialect : Dialect) (text : List UInt8) :
    (dropOidWord dialect text).length ≤ text.length := by
  unfold dropOidWord
  split
  · split
    · simp only [List.length_cons]
      omega
    · exact Nat.le_refl _
  · exact Nat.le_refl _

/-- Runs of digits separated by dots. A dot promises another run. -/
def readArcs (text : List UInt8) : Except Stuck (List (List UInt8) × List UInt8) :=
  if (text.takeWhile Octet.isDigit).isEmpty then .error ⟨.malformedOid, text⟩
  else
    match _found : text.dropWhile Octet.isDigit with
    | [] => .ok ([text.takeWhile Octet.isDigit], [])
    | next :: after =>
        if next = Octet.dot then
          match readArcs after with
          | .ok (arcs, rest) => .ok (text.takeWhile Octet.isDigit :: arcs, rest)
          | .error stuck => .error stuck
        else
          .ok ([text.takeWhile Octet.isDigit], next :: after)
termination_by text.length
decreasing_by
  have shorter := dropWhile_length_le Octet.isDigit text
  simp only [*, List.length_cons] at shorter
  omega

theorem readArcs_length_le {text rest : List UInt8} {arcs : List (List UInt8)}
    (read : readArcs text = .ok (arcs, rest)) : rest.length ≤ text.length := by
  fun_induction readArcs text generalizing arcs with
  | case1 => cases read
  | case2 =>
      cases read
      exact Nat.zero_le _
  | case3 text _ after more tail deeper found ih =>
      cases read
      have shorter := dropWhile_length_le Octet.isDigit text
      have below := ih deeper
      simp only [found, List.length_cons] at shorter
      omega
  | case4 => cases read
  | case5 text _ next after found =>
      cases read
      exact found ▸ dropWhile_length_le Octet.isDigit text

/-- A descriptor or a dotted number of at least two runs. -/
def readBareType (text : List UInt8) : Except Stuck (String × List UInt8) :=
  match text with
  | [] => .error ⟨.typeExpected, text⟩
  | first :: _ =>
      if Octet.isLetter first then
        .ok (Octet.textOf (text.takeWhile Octet.isKeyOctet), text.dropWhile Octet.isKeyOctet)
      else if Octet.isDigit first then
        match readArcs text with
        | .ok (arcs, rest) =>
            if arcs.length < 2 then .error ⟨.malformedOid, text⟩
            else .ok (Octet.textOf ([Octet.dot].intercalate arcs), rest)
        | .error stuck => .error stuck
      else
        .error ⟨.typeExpected, text⟩

theorem readBareType_length_le {text rest : List UInt8} {type : String}
    (read : readBareType text = .ok (type, rest)) : rest.length ≤ text.length := by
  unfold readBareType at read
  split at read
  · cases read
  · split at read
    · cases read
      exact dropWhile_length_le _ _
    · split at read
      · split at read
        · next arcs remaining arcsRead =>
            split at read
            · cases read
            · cases read
              exact readArcs_length_le arcsRead
        · cases read
      · cases read

/-- An attribute type; the word `oid.` before a number is not part of it. -/
def readType (dialect : Dialect) (text : List UInt8) : Except Stuck (String × List UInt8) :=
  readBareType (dropOidWord dialect text)

theorem readType_length_le {dialect : Dialect} {text rest : List UInt8} {type : String}
    (read : readType dialect text = .ok (type, rest)) : rest.length ≤ text.length :=
  Nat.le_trans (readBareType_length_le read) (dropOidWord_length_le dialect text)

end DirectoryName.Reading

import DirectoryName.Json
import DirectoryName.Text.Digit

namespace DirectoryName.Json

/-! The quoted strings of JSON text.

A control character is written as an escape, by a letter where there is one; of the
others only the quote and the backslash are. A reader takes any escape of the
format, but no bare control and no surrogate without its partner. -/

def escapedChar (character : Char) : List Char :=
  if character = '"' || character = '\\' then ['\\', character]
  else if character = '\x08' then ['\\', 'b']
  else if character = '\t' then ['\\', 't']
  else if character = '\n' then ['\\', 'n']
  else if character = '\x0c' then ['\\', 'f']
  else if character = '\r' then ['\\', 'r']
  else if character.toNat < 0x20 then
    ['\\', 'u', '0', '0', Nat.digitChar (character.toNat / 16),
      Nat.digitChar (character.toNat % 16)]
  else [character]

def stringText (value : String) : List Char :=
  '"' :: (value.toList.flatMap escapedChar ++ ['"'])

/-- The value of four hexadecimal digits, and the text after them. -/
def readUnit (text : List Char) : Option (Nat × List Char) :=
  match text with
  | a :: b :: c :: d :: rest => do
      let a ← Text.digitValue? 16 a
      let b ← Text.digitValue? 16 b
      let c ← Text.digitValue? 16 c
      let d ← Text.digitValue? 16 d
      return (a * 0x1000 + b * 0x100 + c * 0x10 + d, rest)
  | _ => none

theorem readUnit_shorter {text rest : List Char} {unit : Nat}
    (read : readUnit text = some (unit, rest)) : rest.length < text.length := by
  unfold readUnit at read
  split at read
  · simp only [Option.bind_eq_bind, Option.bind_eq_some_iff] at read
    obtain ⟨_, -, _, -, _, -, _, -, last⟩ := read
    cases last
    simp only [List.length_cons]
    omega
  · cases read

def joinSurrogates (high low : Nat) : Char :=
  Char.ofNat (0x10000 + (high - 0xD800) * 0x400 + (low - 0xDC00))

/-- The character of one or two units behind the letter `u`; a surrogate needs its
partner. -/
def readCodePoint (text : List Char) : Option (Char × List Char) :=
  match readUnit text with
  | none => none
  | some (unit, rest) =>
      if 0xD800 ≤ unit && unit ≤ 0xDBFF then
        match rest with
        | '\\' :: 'u' :: more =>
            match readUnit more with
            | some (low, rest) =>
                if 0xDC00 ≤ low && low ≤ 0xDFFF then
                  some (joinSurrogates unit low, rest)
                else none
            | none => none
        | _ => none
      else if 0xDC00 ≤ unit && unit ≤ 0xDFFF then none
      else some (Char.ofNat unit, rest)

theorem readCodePoint_shorter {text rest : List Char} {found : Char}
    (read : readCodePoint text = some (found, rest)) : rest.length < text.length := by
  unfold readCodePoint at read
  split at read
  · cases read
  · next first =>
      have shorter := readUnit_shorter first
      split at read
      · split at read
        · split at read
          · next second =>
              have further := readUnit_shorter second
              split at read
              · simp only [Option.some.injEq, Prod.mk.injEq] at read
                obtain ⟨-, rfl⟩ := read
                simp only [List.length_cons] at shorter
                omega
              · cases read
          · cases read
        · cases read
      · split at read
        · cases read
        · simp only [Option.some.injEq, Prod.mk.injEq] at read
          exact read.2 ▸ shorter

/-- The character of an escape whose backslash stands right before `text`. -/
def readEscape (text : List Char) : Option (Char × List Char) :=
  match text with
  | '"' :: rest => some ('"', rest)
  | '\\' :: rest => some ('\\', rest)
  | '/' :: rest => some ('/', rest)
  | 'b' :: rest => some ('\x08', rest)
  | 'f' :: rest => some ('\x0c', rest)
  | 'n' :: rest => some ('\n', rest)
  | 'r' :: rest => some ('\r', rest)
  | 't' :: rest => some ('\t', rest)
  | 'u' :: rest => readCodePoint rest
  | _ => none

theorem readEscape_shorter {text rest : List Char} {found : Char}
    (read : readEscape text = some (found, rest)) : rest.length < text.length := by
  unfold readEscape at read
  split at read
  case h_9 =>
    exact Nat.lt_succ_of_lt (readCodePoint_shorter read)
  case h_10 => cases read
  all_goals
    cases read
    exact Nat.lt_succ_self _

/-- The characters up to the closing quote, which is passed over. -/
def readString (text : List Char) : Option (List Char × List Char) :=
  match text with
  | [] => none
  | first :: after =>
      if first = '"' then some ([], after)
      else if first = '\\' then
        match _escape : readEscape after with
        | none => none
        | some (character, remaining) =>
            match readString remaining with
            | some (others, rest) => some (character :: others, rest)
            | none => none
      else if first.toNat < 0x20 then none
      else
        match readString after with
        | some (others, rest) => some (first :: others, rest)
        | none => none
termination_by text.length
decreasing_by
  · have shorter := readEscape_shorter (by assumption)
    simp only [List.length_cons]
    omega
  · simp only [List.length_cons]
    omega

theorem readString_shorter {text rest value : List Char}
    (read : readString text = some (value, rest)) : rest.length < text.length := by
  fun_induction readString text generalizing value with
  | case1 => cases read
  | case2 =>
      cases read
      exact Nat.lt_succ_self _
  | case3 => cases read
  | case4 after character remaining escape others _ deeper _ ih =>
      cases read
      have shorter := readEscape_shorter escape
      have below := ih deeper
      simp only [List.length_cons]
      omega
  | case5 => cases read
  | case6 => cases read
  | case7 first after _ _ _ others _ deeper ih =>
      cases read
      have below := ih deeper
      simp only [List.length_cons]
      omega
  | case8 => cases read

end DirectoryName.Json

import DirectoryName.Json.Number
import DirectoryName.Json.Quoted

namespace DirectoryName.Json

/-! The tokens of JSON text.

`Token.text` writes one token, `readTokens` reads a whole text. White space may
stand between tokens and is no part of any. -/

inductive Token where
  | openArray
  | closeArray
  | openObject
  | closeObject
  | comma
  | colon
  | scalar (value : Scalar)
deriving DecidableEq, Repr

def Scalar.text : Scalar → List Char
  | .null => ['n', 'u', 'l', 'l']
  | .boolean true => ['t', 'r', 'u', 'e']
  | .boolean false => ['f', 'a', 'l', 's', 'e']
  | .natural value => Nat.toDigits 10 value
  | .real literal => literal.toList
  | .string value => stringText value

def Token.text : Token → List Char
  | .openArray => ['[']
  | .closeArray => [']']
  | .openObject => ['\x7b']
  | .closeObject => ['\x7d']
  | .comma => [',']
  | .colon => [':']
  | .scalar value => Scalar.text value

def isWhite (character : Char) : Bool :=
  character == ' ' || character == '\t' || character == '\n' || character == '\r'

def readWord (word text : List Char) : Option (List Char) :=
  if word.isPrefixOf text then some (text.drop word.length) else none

/-- The token at the front of a text that starts with no white space. -/
def readToken (text : List Char) : Option (Token × List Char) :=
  match text with
  | [] => none
  | '[' :: rest => some (.openArray, rest)
  | ']' :: rest => some (.closeArray, rest)
  | '\x7b' :: rest => some (.openObject, rest)
  | '\x7d' :: rest => some (.closeObject, rest)
  | ',' :: rest => some (.comma, rest)
  | ':' :: rest => some (.colon, rest)
  | '"' :: rest =>
      (readString rest).map fun (value, rest) => (.scalar (.string (String.ofList value)), rest)
  | 'n' :: rest => (readWord ['u', 'l', 'l'] rest).map fun rest => (.scalar .null, rest)
  | 't' :: rest =>
      (readWord ['r', 'u', 'e'] rest).map fun rest => (.scalar (.boolean true), rest)
  | 'f' :: rest =>
      (readWord ['a', 'l', 's', 'e'] rest).map fun rest => (.scalar (.boolean false), rest)
  | first :: rest =>
      (readNumber (first :: rest)).map fun (literal, rest) => (.scalar literal.scalar, rest)

theorem readWord_length_le {word text rest : List Char}
    (read : readWord word text = some rest) : rest.length ≤ text.length := by
  unfold readWord at read
  split at read
  · cases read
    simp
  · cases read

theorem readToken_shorter {text rest : List Char} {token : Token}
    (read : readToken text = some (token, rest)) : rest.length < text.length := by
  unfold readToken at read
  split at read
  case h_1 => cases read
  case h_8 =>
    obtain ⟨_, found, same⟩ := Option.map_eq_some_iff.mp read
    cases same
    exact Nat.lt_succ_of_lt (readString_shorter found)
  case h_9 | h_10 | h_11 =>
    obtain ⟨_, found, same⟩ := Option.map_eq_some_iff.mp read
    cases same
    exact Nat.lt_succ_of_le (readWord_length_le found)
  case h_12 =>
    obtain ⟨_, found, same⟩ := Option.map_eq_some_iff.mp read
    cases same
    exact readNumber_shorter found
  all_goals
    cases read
    exact Nat.lt_succ_self _

def readTokens (text : List Char) : Option (List Token) :=
  match text with
  | [] => some []
  | first :: after =>
      if isWhite first then readTokens after
      else
        match _read : readToken (first :: after) with
        | none => none
        | some (token, rest) => (readTokens rest).map (token :: ·)
termination_by text.length
decreasing_by
  · exact Nat.lt_succ_self _
  · exact readToken_shorter (by assumption)

end DirectoryName.Json

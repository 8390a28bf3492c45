import DirectoryName.Text.Printable

namespace DirectoryName.Text

/-! Text and characters quoted for a message.

Between its quotes a character is shown as itself, as one of the short escapes,
or, if it has no glyph of its own, by its code point. Only the delimiter in use
is escaped: a text may hold bare apostrophes, a character a bare double quote. -/

namespace Quoted

/-- A code point written in lowercase hexadecimal without leading zeros. -/
def codePoint (character : Char) : List Char :=
  ['\\', 'u', '\x7b'] ++ Nat.toDigits 16 character.toNat ++ ['\x7d']

def escaped (delimiter character : Char) : List Char :=
  if character = '\x00' then ['\\', '0']
  else if character = '\t' then ['\\', 't']
  else if character = '\r' then ['\\', 'r']
  else if character = '\n' then ['\\', 'n']
  else if character = '\\' || character = delimiter then ['\\', character]
  else if isPrintable character then [character]
  else codePoint character

end Quoted

def quoted (text : String) : String :=
  String.ofList ('"' :: (text.toList.flatMap (Quoted.escaped '"') ++ ['"']))

def quotedChar (character : Char) : String :=
  String.ofList ('\'' :: (Quoted.escaped '\'' character ++ ['\'']))

end DirectoryName.Text

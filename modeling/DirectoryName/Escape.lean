import DirectoryName.Octet

namespace DirectoryName

/-! Protecting the characters of a value.

A writer protects what a reader would take for structure: a fixed set of
characters everywhere, a number sign at the start, spaces at either end. A value
may ask for its characters outside printable ASCII to be written as hexadecimal
pairs, one for each of their octets; otherwise they stand for themselves, NUL
behind a backslash. -/

/-- What a notation protects in a value. -/
structure EscapeRules where
  specials : List Char
  /-- Whether a number sign is protected at the start. -/
  leadingHash : Bool
  /-- Whether spaces are protected at the start and at the end. -/
  edgeSpaces : Bool
deriving DecidableEq, Repr

namespace EscapeRules

def ldap : EscapeRules where
  specials := [',', '+', '"', '\\', '<', '>', ';', '=']
  leadingHash := true
  edgeSpaces := true

def dce : EscapeRules where
  specials := ['/', ',', '=', '\\']
  leadingHash := true
  edgeSpaces := false

/-- Canonical names protect the path separator only. -/
def canonical : EscapeRules where
  specials := ['/', '\\']
  leadingHash := false
  edgeSpaces := false

/-- Whether a character is protected; `first` and `last` say that it stands at
that end of the value. -/
def protects (rules : EscapeRules) (first last : Bool) (character : Char) : Bool :=
  rules.specials.contains character ||
    (first && rules.leadingHash && character == '#') ||
    ((first || last) && rules.edgeSpaces && character == ' ')

end EscapeRules

namespace Escape

def isPrintableAscii (character : Char) : Bool :=
  ' ' ≤ character && character ≤ '~'

/-- A character as a backslash and two digits for each of its octets. -/
def hexPairs (character : Char) : List Char :=
  (String.utf8EncodeChar character).flatMap fun octet => '\\' :: Octet.hexPair octet

/-- One character of a value. With `hexed` everything outside printable ASCII
becomes hexadecimal pairs. -/
def escapeChar (rules : EscapeRules) (hexed first last : Bool) (character : Char) : List Char :=
  if character = '\x00' then
    if hexed then hexPairs character else ['\\', character]
  else if rules.protects first last character then ['\\', character]
  else if hexed && !isPrintableAscii character then hexPairs character
  else [character]

/-- The characters of a value, where `first` says that its start is the value's start. -/
def escapeFrom (rules : EscapeRules) (hexed first : Bool) (value : List Char) : List Char :=
  match value with
  | [] => []
  | character :: rest =>
      escapeChar rules hexed first rest.isEmpty character ++ escapeFrom rules hexed false rest

def escape (rules : EscapeRules) (hexed : Bool) (value : List Char) : List Char :=
  escapeFrom rules hexed true value

/-- One character between quotes. -/
def quoteChar (hexed : Bool) (character : Char) : List Char :=
  if character = '"' || character = '\\' then ['\\', character]
  else if hexed && !isPrintableAscii character then hexPairs character
  else [character]

def quote (hexed : Bool) (value : List Char) : List Char :=
  '"' :: (value.flatMap (quoteChar hexed) ++ ['"'])

/-- Whether a value is written in quotes where quotes are preferred to backslashes. -/
def needsQuotes (value : List Char) : Bool :=
  value.head? == some ' ' || value.head? == some '#' || value.getLast? == some ' ' ||
    value.any fun character => character == '\x00' || EscapeRules.ldap.specials.contains character

/-- The hexadecimal string of a value's octets, after a number sign. -/
def hexString (value : List Char) : List Char :=
  '#' :: (value.flatMap String.utf8EncodeChar).flatMap Octet.hexPair

end Escape

/-- A value as it may stand in a name of any LDAP notation. -/
def escapeValue (value : String) : String :=
  String.ofList (Escape.escape .ldap false value.toList)

end DirectoryName

import DirectoryName.Json.Token

namespace DirectoryName.Json

/-! Written values.

A value is written as its tokens, either one right after the other or laid out with
one item to a line, two spaces deeper than its container. -/

mutual

def tokens : Json → List Token
  | .scalar value => [.scalar value]
  | .array items => .openArray :: (itemTokens items ++ [.closeArray])
  | .object members => .openObject :: (memberTokens members ++ [.closeObject])

def itemTokens : List Json → List Token
  | [] => []
  | [last] => tokens last
  | first :: next :: rest => tokens first ++ .comma :: itemTokens (next :: rest)

def memberTokens : List (String × Json) → List Token
  | [] => []
  | [(name, value)] => .scalar (.string name) :: .colon :: tokens value
  | (name, value) :: next :: rest =>
      .scalar (.string name) :: .colon :: (tokens value ++ .comma :: memberTokens (next :: rest))

end

/-- A line end and the indentation of the next line. -/
def lineBreak (depth : Nat) : List Char :=
  '\n' :: List.replicate (2 * depth) ' '

/-- Tokens laid out over lines, where `depth` containers are open. -/
def layout (depth : Nat) : List Token → List Char
  | [] => []
  | .openArray :: .closeArray :: rest => '[' :: ']' :: layout depth rest
  | .openObject :: .closeObject :: rest => '\x7b' :: '\x7d' :: layout depth rest
  | .openArray :: rest => '[' :: (lineBreak (depth + 1) ++ layout (depth + 1) rest)
  | .openObject :: rest => '\x7b' :: (lineBreak (depth + 1) ++ layout (depth + 1) rest)
  | .closeArray :: rest => lineBreak (depth - 1) ++ ']' :: layout (depth - 1) rest
  | .closeObject :: rest => lineBreak (depth - 1) ++ '\x7d' :: layout (depth - 1) rest
  | .comma :: rest => ',' :: (lineBreak depth ++ layout depth rest)
  | .colon :: rest => ':' :: ' ' :: layout depth rest
  | .scalar value :: rest => Scalar.text value ++ layout depth rest

def compact (value : Json) : String :=
  String.ofList (value.tokens.flatMap Token.text)

def pretty (value : Json) : String :=
  String.ofList (layout 0 value.tokens)

end DirectoryName.Json

import DirectoryName.Error

namespace DirectoryName

/-! Loosely typed values, as JSON has them.

The only numbers with a meaning here are those written as plain digits; a number
with a sign, a fraction or an exponent is kept as it was written. -/

inductive Json.Scalar where
  | null
  | boolean (value : Bool)
  /-- A number written as digits alone. -/
  | natural (value : Nat)
  /-- Any other number, as written. -/
  | real (literal : String)
  | string (value : String)
deriving DecidableEq, Repr

inductive Json where
  | scalar (value : Json.Scalar)
  | array (items : List Json)
  | object (members : List (String × Json))
deriving Repr

instance : Inhabited Json := ⟨.scalar .null⟩

namespace Json

def string (value : String) : Json := .scalar (.string value)

def natural (value : Nat) : Json := .scalar (.natural value)

def kind : Json → ValueKind
  | .scalar .null => .null
  | .scalar (.boolean _) => .boolean
  | .scalar (.natural _) | .scalar (.real _) => .number
  | .scalar (.string _) => .string
  | .array _ => .array
  | .object _ => .object

end Json

end DirectoryName

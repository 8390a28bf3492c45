import DirectoryName.Notation
import DirectoryName.Octet
import DirectoryName.Text.Quoted

namespace DirectoryName

/-! Causes of failure and their wording.

A failure is a cause; its result code, its position and its text are functions
of the cause. -/

namespace ResultCode

def success : Int := 0
def invalidSyntax : Int := 34
def encodingError : Int := -3
def decodingError : Int := -4
def paramError : Int := -9
def noMemory : Int := -10

def message (code : Int) : String :=
  if code = success then "Success"
  else if code = invalidSyntax then "Invalid DN syntax"
  else if code = encodingError then "Encoding error"
  else if code = decodingError then "Decoding error"
  else if code = paramError then "Bad parameter to an ldap routine"
  else if code = noMemory then "Out of memory"
  else "Unknown error"

end ResultCode

inductive SyntaxFault where
  | typeExpected
  | malformedOid
  | equalsExpected
  | spaceForbidden
  | spaceAfterSeparator
  | spaceAfterValue
  | octetAfterRdn (octet : UInt8)
  | octetAfterValue (octet : UInt8)
  | hexStringExpected
  | hexDigitsOdd
  | hexDigitInvalid (octet : UInt8)
  | quotesForbidden
  | quoteUnterminated
  | escapeUnterminated
  | escapeIncomplete
  | escapeNeedless (octet : UInt8)
  | semicolonUnescaped
  | octetUnescaped (octet : UInt8)
  | slashExpected
  /-- The value's octets are not UTF-8 after the given number of good ones. -/
  | notUtf8 (good : Nat)
deriving DecidableEq, Repr

namespace SyntaxFault

def code : SyntaxFault → Int
  | .notUtf8 _ => ResultCode.decodingError
  | _ => ResultCode.invalidSyntax

def detail : SyntaxFault → String
  | .typeExpected => "Attribute type expected"
  | .malformedOid => "Malformed numeric OID"
  | .equalsExpected => "Expected '=' after attribute type"
  | .spaceForbidden => "Unexpected space"
  | .spaceAfterSeparator => "Space after RDN separator"
  | .spaceAfterValue => "Trailing space after value"
  | .octetAfterRdn octet => "Unexpected character " ++ shown octet ++ " after RDN"
  | .octetAfterValue octet => "Unexpected character " ++ shown octet ++ " after value"
  | .hexStringExpected => "Hex string expected after '#'"
  | .hexDigitsOdd => "Odd number of hex digits"
  | .hexDigitInvalid octet => "Invalid hex digit " ++ shown octet
  | .quotesForbidden => "Quoted values are not allowed in LDAPv3 names"
  | .quoteUnterminated => "Unterminated quoted value"
  | .escapeUnterminated => "Unterminated escape sequence"
  | .escapeIncomplete => "Incomplete hex escape"
  | .escapeNeedless octet => "Invalid escape of " ++ shown octet
  | .semicolonUnescaped => "Unescaped ';' in value"
  | .octetUnescaped octet => "Unescaped " ++ shown octet ++ " in value"
  | .slashExpected => "Expected '/' before RDN"
  | .notUtf8 good => "Value is not valid UTF-8 after " ++ toString good ++ " bytes"
where
  /-- An octet is shown as the character of its value. -/
  shown (octet : UInt8) : String := Text.quotedChar (Octet.toChar octet)

end SyntaxFault

inductive ValueKind where
  | null
  | boolean
  | number
  | string
  | array
  | object
deriving DecidableEq, Repr

def ValueKind.label : ValueKind → String
  | .null => "null"
  | .boolean => "boolean"
  | .number => "number"
  | .string => "string"
  | .array => "array"
  | .object => "object"

/-- Where a loosely typed value departs from nested triples, and what stands there. -/
inductive Misfit where
  | notRdns (kind : ValueKind)
  | notRdn (rdn : Nat) (kind : ValueKind)
  | emptyRdn (rdn : Nat)
  | notTriple (rdn ava : Nat) (kind : ValueKind)
  | shortTriple (rdn ava length : Nat)
  | notText (rdn ava field : Nat) (kind : ValueKind)
  | notFlags (rdn ava : Nat) (kind : ValueKind)
deriving DecidableEq, Repr

namespace Misfit

def indexed (indices : List Nat) : String :=
  String.join (indices.map fun index => "[" ++ toString index ++ "]")

def found : Misfit → String
  | .notRdns kind => kind.label ++ " at top level"
  | .notRdn rdn kind => kind.label ++ " at " ++ indexed [rdn]
  | .emptyRdn rdn => "empty array at " ++ indexed [rdn]
  | .notTriple rdn ava kind => kind.label ++ " at " ++ indexed [rdn, ava]
  | .shortTriple rdn ava length =>
      "array of length " ++ toString length ++ " at " ++ indexed [rdn, ava]
  | .notText rdn ava field kind =>
      kind.label ++ " instead of string at " ++ indexed [rdn, ava, field]
  | .notFlags rdn ava kind => kind.label ++ " instead of integer at " ++ indexed [rdn, ava, 2]

end Misfit

inductive EncodingFault where
  | emptyRdn
  | invalidType (type : String)
  | emptyBinary (type : String)
  | notDomainLabel (value : String)
  | domainMissing
deriving DecidableEq, Repr

def EncodingFault.detail : EncodingFault → String
  | .emptyRdn => "RDN contains no AVA"
  | .invalidType type => "Invalid attribute type " ++ Text.quoted type
  | .emptyBinary type => "Binary value of " ++ type ++ " is empty"
  | .notDomainLabel value =>
      "Domain component " ++ Text.quoted value ++ " cannot be written as a domain label"
  | .domainMissing => "Active Directory canonical names need a dc= domain suffix"

inductive FlagFault where
  /-- No notation has this format nibble. -/
  | unknownFormat (nibble : UInt32)
  | notReadable (form : Notation)
deriving DecidableEq, Repr

namespace FlagFault

/-- At least two lowercase hexadecimal digits. -/
def hexByte (value : Nat) : String :=
  String.ofList (List.leftpad 2 '0' (Nat.toDigits 16 value))

def detail : FlagFault → String
  | .unknownFormat nibble => "Unknown DN format 0x" ++ hexByte nibble.toNat
  | .notReadable form => form.label ++ " names cannot be parsed"

end FlagFault

inductive NameError where
  | badSyntax (offset : Nat) (fault : SyntaxFault)
  | badShape (misfit : Misfit)
  | badName (fault : EncodingFault)
  | badFlags (fault : FlagFault)
deriving DecidableEq, Repr

namespace NameError

def code : NameError → Int
  | .badSyntax _ fault => fault.code
  | .badShape _ => ResultCode.paramError
  | .badName _ => ResultCode.encodingError
  | .badFlags _ => ResultCode.paramError

def codeMessage (error : NameError) : String :=
  ResultCode.message error.code

/-- The octet at which reading failed. -/
def offset? : NameError → Option Nat
  | .badSyntax offset _ => some offset
  | _ => none

/-- What every loosely typed name has to be. -/
def expectedShape : String :=
  "sequence of sequence of (string, string, integer)"

def message (error : NameError) : String :=
  match error with
  | .badSyntax offset fault =>
      error.codeMessage ++ " at byte " ++ toString offset ++ ": " ++ fault.detail
  | .badShape misfit =>
      "Type mismatch: expected " ++ expectedShape ++ ", found " ++ misfit.found
  | .badName fault => error.codeMessage ++ ": " ++ fault.detail
  | .badFlags fault => error.codeMessage ++ ": " ++ fault.detail

end NameError

end DirectoryName

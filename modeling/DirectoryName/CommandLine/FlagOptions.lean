import DirectoryName.Flags
import DirectoryName.Text.Digit
import DirectoryName.Text.Quoted

namespace DirectoryName.CommandLine

/-! The options that make up a flag word. -/

/-- Why a text is no 32-bit number. -/
inductive NumberFault where
  | empty
  | invalidDigit
  | tooLarge
deriving DecidableEq, Repr

def NumberFault.message : NumberFault → String
  | .empty => "cannot parse integer from empty string"
  | .invalidDigit => "invalid digit found in string"
  | .tooLarge => "number too large to fit in target type"

/-- Reads digits on top of `total`, up to the first that is none or no longer fits. -/
def readDigits (radix total : Nat) (digits : List Char) : Except NumberFault UInt32 :=
  match digits with
  | [] => .ok total.toUInt32
  | first :: rest =>
      match Text.digitValue? radix first with
      | none => .error .invalidDigit
      | some digit =>
          if total * radix + digit < 2 ^ 32 then readDigits radix (total * radix + digit) rest
          else .error .tooLarge

/-- A number in the given radix, perhaps behind one plus sign. -/
def readNumber (radix : Nat) (text : List Char) : Except NumberFault UInt32 :=
  match text with
  | [] => .error .empty
  | ['+'] => .error .invalidDigit
  | '+' :: digits => readDigits radix 0 digits
  | digits => readDigits radix 0 digits

/-- A flag word in decimal, or in hexadecimal behind `0x`. -/
def readFlagWord (text : String) : Except NumberFault UInt32 :=
  match text.toList with
  | '0' :: 'x' :: digits | '0' :: 'X' :: digits => readNumber 16 digits
  | digits => readNumber 10 digits

/-- The notation of a name on the command line. -/
def readFormat? (text : String) : Option Notation :=
  match text with
  | "ldap" => some .ldap
  | "v3" => some .ldapV3
  | "v2" => some .ldapV2
  | "dce" => some .dce
  | "ufn" => some .ufn
  | "ad" => some .adCanonical
  | _ => none

/-- The options that every command shares. -/
structure FlagOptions where
  format : Notation
  /-- Every strictness bit. -/
  strict : Bool
  /-- A flag word that overrides the other options. -/
  word? : Option UInt32
deriving DecidableEq, Repr

def FlagOptions.flags (options : FlagOptions) : NameFlags :=
  match options.word? with
  | some word => ⟨word⟩
  | none =>
      if options.strict then (NameFlags.ofFormat options.format).adding NameFlags.pedanticMask
      else .ofFormat options.format

end DirectoryName.CommandLine

import DirectoryName.Error
import DirectoryName.Octet

namespace DirectoryName

/-! The common ground of the readers.

A reader takes the octets that are left and returns what it read with the octets
after it, or says where it got stuck. A position is the list of octets that were
left there: readers neither count nor index, and an offset is the difference of
two lengths. -/

/-- A fault, and the octets left at its position. -/
structure Stuck where
  fault : SyntaxFault
  rest : List UInt8
deriving DecidableEq, Repr

/-- The failure that being stuck in `input` amounts to. -/
def Stuck.toError (stuck : Stuck) (input : List UInt8) : NameError :=
  .badSyntax (input.length - stuck.rest.length) stuck.fault

namespace Dialect

/-- Whether spaces around types and values are padding. -/
def padsWithSpaces (dialect : Dialect) : Bool :=
  dialect ≠ .dce

def endsValue (dialect : Dialect) (octet : UInt8) : Bool :=
  match dialect with
  | .lenient => octet == Octet.comma || octet == Octet.plus || octet == Octet.semicolon
  | .strictV3 => octet == Octet.comma || octet == Octet.plus
  | .dce => octet == Octet.slash || octet == Octet.comma

def joinsAvas (dialect : Dialect) (octet : UInt8) : Bool :=
  match dialect with
  | .lenient | .strictV3 => octet == Octet.plus
  | .dce => octet == Octet.comma

/-- The octet between two components; path notation puts its slash in front instead. -/
def separatesRdns (dialect : Dialect) (octet : UInt8) : Bool :=
  match dialect with
  | .lenient => octet == Octet.comma || octet == Octet.semicolon
  | .strictV3 => octet == Octet.comma
  | .dce => false

/-- The octets that a backslash protects for good reason. -/
def needsEscape (dialect : Dialect) (octet : UInt8) : Bool :=
  match dialect with
  | .lenient | .strictV3 =>
      [Octet.comma, Octet.plus, Octet.quote, Octet.backslash, Octet.less, Octet.greater,
        Octet.semicolon, Octet.equals, Octet.space, Octet.hash].contains octet
  | .dce =>
      [Octet.slash, Octet.comma, Octet.equals, Octet.backslash, Octet.hash].contains octet

end Dialect

namespace Reading

def dropSpaces (text : List UInt8) : List UInt8 :=
  text.dropWhile (· == Octet.space)

/-- Passes over padding; `fault` is raised where strictness forbids it. -/
def skipPadding (rules : Rules) (fault : SyntaxFault) (text : List UInt8) :
    Except Stuck (List UInt8) :=
  if rules.dialect.padsWithSpaces && text.head? == some Octet.space then
    if rules.strictness.noEdgeSpaces then .error ⟨fault, text⟩ else .ok (dropSpaces text)
  else
    .ok text

theorem dropWhile_length_le (keep : UInt8 → Bool) (text : List UInt8) :
    (text.dropWhile keep).length ≤ text.length :=
  (List.dropWhile_sublist keep).length_le

theorem skipPadding_length_le {rules : Rules} {fault : SyntaxFault} {text rest : List UInt8}
    (skipped : skipPadding rules fault text = .ok rest) : rest.length ≤ text.length := by
  unfold skipPadding at skipped
  split at skipped
  · split at skipped
    · cases skipped
    · cases skipped
      exact dropWhile_length_le _ text
  · cases skipped
    exact Nat.le_refl _

end Reading

end DirectoryName

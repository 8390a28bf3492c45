namespace DirectoryName

/-! The six textual notations for names, and the three dialects in which four of
them are read.

The permissive notation and the older LDAP notation differ in what is written,
not in what is read, so they share a dialect. User-friendly and canonical names
drop the attribute types and cannot be read back. -/

inductive Notation where
  /-- Permissive LDAP: semicolons also separate, and values may be quoted. -/
  | ldap
  /-- Strict LDAP version 3. -/
  | ldapV3
  /-- LDAP version 2, which prefers quotes to backslashes. -/
  | ldapV2
  /-- Path notation, most general component first. -/
  | dce
  /-- User-friendly names, for display only. -/
  | ufn
  /-- Canonical names, a domain followed by a path, for display only. -/
  | adCanonical
deriving DecidableEq, Repr

def Notation.all : List Notation := [.ldap, .ldapV3, .ldapV2, .dce, .ufn, .adCanonical]

def Notation.label : Notation → String
  | .ldap => "Ldap"
  | .ldapV3 => "LdapV3"
  | .ldapV2 => "LdapV2"
  | .dce => "Dce"
  | .ufn => "Ufn"
  | .adCanonical => "AdCanonical"

/-- A set of reading rules. -/
inductive Dialect where
  | lenient
  | strictV3
  | dce
deriving DecidableEq, Repr

def Notation.dialect? : Notation → Option Dialect
  | .ldap | .ldapV2 => some .lenient
  | .ldapV3 => some .strictV3
  | .dce => some .dce
  | .ufn | .adCanonical => none

def Notation.isReadable (form : Notation) : Bool :=
  form.dialect?.isSome

/-- What a reader refuses beyond its dialect. -/
structure Strictness where
  /-- No space before or after a type, a value or an equals sign. -/
  noEdgeSpaces : Bool
  /-- No space right after the separator of two components. -/
  noSpaceAfterSeparator : Bool
  /-- A backslash only before a character that needs one. -/
  needfulEscapesOnly : Bool
deriving DecidableEq, Repr

structure Rules where
  dialect : Dialect
  strictness : Strictness
deriving DecidableEq, Repr

end DirectoryName

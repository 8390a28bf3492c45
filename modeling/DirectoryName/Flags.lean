import DirectoryName.Notation

namespace DirectoryName

/-! Flag words: 32-bit integers with named bits.

A name flag word selects a notation with its format nibble and a strictness with
its upper bits; bits without a meaning are carried along. A value flag word
records how a value was written. -/

structure NameFlags where
  bits : UInt32
deriving DecidableEq, Repr

namespace NameFlags

def formatMask : UInt32 := 0xF0

/-- The format nibble, in place. -/
def formatBits (flags : NameFlags) : UInt32 :=
  flags.bits &&& formatMask

def ofFormat : Notation → NameFlags
  | .ldap => ⟨0x00⟩
  | .ldapV3 => ⟨0x10⟩
  | .ldapV2 => ⟨0x20⟩
  | .dce => ⟨0x30⟩
  | .ufn => ⟨0x40⟩
  | .adCanonical => ⟨0x50⟩

/-- The notation of the format nibble; ten nibbles select none. -/
def format? (flags : NameFlags) : Option Notation :=
  Notation.all.find? fun form => (ofFormat form).bits == flags.formatBits

def pedanticMask : UInt32 := 0xF000

def noEdgeSpaces (flags : NameFlags) : Bool :=
  flags.bits &&& 0x1000 != 0

def noSpaceAfterSeparator (flags : NameFlags) : Bool :=
  flags.bits &&& 0x2000 != 0

/-- Escapes are checked only when every strictness bit is set. -/
def isPedantic (flags : NameFlags) : Bool :=
  flags.bits &&& pedanticMask == pedanticMask

def strictness (flags : NameFlags) : Strictness where
  noEdgeSpaces := flags.noEdgeSpaces
  noSpaceAfterSeparator := flags.noSpaceAfterSeparator
  needfulEscapesOnly := flags.isPedantic

def adding (flags : NameFlags) (bits : UInt32) : NameFlags :=
  ⟨flags.bits ||| bits⟩

/-- Replaces the format nibble by that of `format`. -/
def withFormat (flags : NameFlags) (format : UInt32) : NameFlags :=
  ⟨(flags.bits &&& ~~~formatMask) ||| (format &&& formatMask)⟩

/-- The permissive notation without strictness. -/
def default : NameFlags := ofFormat .ldap

end NameFlags

structure ValueFlags where
  bits : UInt32
deriving DecidableEq, Repr

namespace ValueFlags

/-- Written as text. -/
def string : ValueFlags := ⟨0x1⟩

/-- Written as a hexadecimal string after a number sign. -/
def binary : ValueFlags := ⟨0x2⟩

/-- Written as text in which octets outside printable ASCII are hexadecimal pairs. -/
def nonprintable : ValueFlags := ⟨0x4⟩

/-- Bookkeeping bits that are never handed out. -/
def internalMask : UInt32 := 0x30

def visible (flags : ValueFlags) : ValueFlags :=
  ⟨flags.bits &&& ~~~internalMask⟩

def isBinary (flags : ValueFlags) : Bool :=
  flags.bits &&& binary.bits != 0

def isNonprintable (flags : ValueFlags) : Bool :=
  flags.bits &&& nonprintable.bits != 0

end ValueFlags

end DirectoryName

import DirectoryName.Escape
import DirectoryName.Name
import DirectoryName.Text.LetterCase

namespace DirectoryName

/-! Names as they are written.

A name is checked before anything is written. The display notations drop the
attribute types and turn the `dc` components at the end of a name into a dotted
domain; only there can writing fail once a name has been checked. -/

namespace Ava

/-- The value, as a hexadecimal string if its flags ask for one. -/
def writeValue (rules : EscapeRules) (ava : Ava) : List Char :=
  if ava.flags.isBinary then Escape.hexString ava.value.toList
  else Escape.escape rules ava.flags.isNonprintable ava.value.toList

/-- The value in quotes where it would otherwise need backslashes. -/
def writeQuotable (ava : Ava) : List Char :=
  if !ava.flags.isBinary && Escape.needsQuotes ava.value.toList then
    Escape.quote ava.flags.isNonprintable ava.value.toList
  else
    ava.writeValue .ldap

/-- An assertion, with its value written by `value`. -/
def write (value : Ava → List Char) (ava : Ava) : List Char :=
  ava.type.toList ++ '=' :: value ava

end Ava

namespace Rdn

/-- The assertions of a component, each written by `ava`, with `joint` between them. -/
def write (joint : List Char) (ava : Ava → List Char) (rdn : Rdn) : List Char :=
  joint.intercalate (rdn.avas.map ava)

/-- Whether the component is a single `dc` assertion. -/
def isDomainComponent (rdn : Rdn) : Bool :=
  !rdn.isMultiValued && Text.asciiLower rdn.first.type == "dc"

/-- The component as a label of a dotted domain: neither empty nor with a dot of its own. -/
def writeLabel (rules : EscapeRules) (rdn : Rdn) : Except EncodingFault (List Char) :=
  if !rdn.first.flags.isBinary &&
      (rdn.first.value.isEmpty || rdn.first.value.toList.contains '.') then
    .error (.notDomainLabel rdn.first.value)
  else
    .ok (rdn.first.writeValue rules)

end Rdn

namespace Dn

/-- The longest run of domain components at the end. -/
def domain (name : Dn) : List Rdn :=
  (name.rdns.reverse.takeWhile Rdn.isDomainComponent).reverse

/-- The components before the domain. -/
def leaf (name : Dn) : List Rdn :=
  (name.rdns.reverse.dropWhile Rdn.isDomainComponent).reverse

def writeDomain (rules : EscapeRules) (labels : List Rdn) : Except EncodingFault (List Char) :=
  (labels.mapM (Rdn.writeLabel rules)).map (['.'].intercalate ·)

def writeLdap (name : Dn) : List Char :=
  [','].intercalate (name.rdns.map (Rdn.write ['+'] (Ava.write (Ava.writeValue .ldap))))

def writeLdapV2 (name : Dn) : List Char :=
  [','].intercalate (name.rdns.map (Rdn.write ['+'] (Ava.write Ava.writeQuotable)))

/-- Each component behind a slash, the most general first. -/
def writeDce (name : Dn) : List Char :=
  name.rdns.reverse.flatMap fun rdn => '/' :: rdn.write [','] (Ava.write (Ava.writeValue .dce))

/-- The values of the components, then the domain, set off by commas. -/
def writeUfn (name : Dn) : Except EncodingFault (List Char) :=
  let values := name.leaf.map (Rdn.write [' ', '+', ' '] (Ava.writeValue .ldap))
  if name.domain.isEmpty then .ok ([',', ' '].intercalate values)
  else
    (writeDomain .ldap name.domain).map fun domain =>
      [',', ' '].intercalate (values ++ [domain])

/-- The domain, then a path of the components' values, the most general first. -/
def writeAdCanonical (name : Dn) : Except EncodingFault (List Char) :=
  if name.domain.isEmpty then .error .domainMissing
  else
    (writeDomain .canonical name.domain).map fun domain =>
      domain ++ '/' ::
        ['/'].intercalate (name.leaf.reverse.map (Rdn.write ['+'] (Ava.writeValue .canonical)))

def write (form : Notation) (name : Dn) : Except EncodingFault (List Char) :=
  match form with
  | .ldap | .ldapV3 => .ok name.writeLdap
  | .ldapV2 => .ok name.writeLdapV2
  | .dce => .ok name.writeDce
  | .ufn => name.writeUfn
  | .adCanonical => name.writeAdCanonical

/-- The text of a name in the notation that a flag word selects; the root is empty
in all of them. -/
def build (name : Dn) (flags : NameFlags) : Except NameError String :=
  match flags.format? with
  | none => .error (.badFlags (.unknownFormat flags.formatBits))
  | some form =>
      match name.fault? with
      | some fault => .error (.badName fault)
      | none =>
          if name.rdns.isEmpty then .ok ""
          else
            match name.write form with
            | .ok text => .ok (String.ofList text)
            | .error fault => .error (.badName fault)

/-- The name in strict LDAP, if it can be written. -/
def display? (name : Dn) : Option String :=
  (name.build (.ofFormat .ldapV3)).toOption

end Dn

end DirectoryName

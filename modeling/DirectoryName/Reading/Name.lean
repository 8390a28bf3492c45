import DirectoryName.Name
import DirectoryName.Reading.Type
import DirectoryName.Reading.Value

namespace DirectoryName

/-! Names as they are read.

Components are lists of assertions; in path notation each has a slash in front
and the most general comes first, elsewhere they stand between separators and
the most specific comes first. -/

namespace Reading

def passEquals (text : List UInt8) : Except Stuck (List UInt8) :=
  match text with
  | [] => .error ⟨.equalsExpected, []⟩
  | next :: rest =>
      if next = Octet.equals then .ok rest else .error ⟨.equalsExpected, next :: rest⟩

theorem passEquals_shorter {text rest : List UInt8}
    (passed : passEquals text = .ok rest) : rest.length < text.length := by
  unfold passEquals at passed
  split at passed
  · cases passed
  · split at passed
    · cases passed
      simp
    · cases passed

/-- One assertion: a type, an equals sign and a value, with padding around each. -/
def readAva (rules : Rules) (text : List UInt8) : Except Stuck (Ava × List UInt8) := do
  let text ← skipPadding rules .spaceForbidden text
  let (type, text) ← readType rules.dialect text
  let text ← skipPadding rules .spaceForbidden text
  let text ← passEquals text
  let text ← skipPadding rules .spaceForbidden text
  let (value, text) ← readValue rules text
  return (⟨type, value.text, value.flags⟩, text)

theorem readAva_shorter {rules : Rules} {text rest : List UInt8} {ava : Ava}
    (read : readAva rules text = .ok (ava, rest)) : rest.length < text.length := by
  simp only [readAva, bind, Except.bind] at read
  split at read
  · cases read
  · next padded =>
      split at read
      · cases read
      · next typed =>
          split at read
          · cases read
          · next spaced =>
              split at read
              · cases read
              · next passed =>
                  split at read
                  · cases read
                  · next opened =>
                      split at read
                      · cases read
                      · next valued =>
                          cases read
                          have := skipPadding_length_le padded
                          have := readType_length_le typed
                          have := skipPadding_length_le spaced
                          have := passEquals_shorter passed
                          have := skipPadding_length_le opened
                          have := readValue_length_le valued
                          omega

def readAvas (rules : Rules) (text : List UInt8) : Except Stuck (Rdn × List UInt8) :=
  match _read : readAva rules text with
  | .error stuck => .error stuck
  | .ok (ava, []) => .ok (⟨ava, []⟩, [])
  | .ok (ava, next :: after) =>
      if rules.dialect.joinsAvas next then
        match readAvas rules after with
        | .error stuck => .error stuck
        | .ok (rdn, rest) => .ok (⟨ava, rdn.avas⟩, rest)
      else
        .ok (⟨ava, []⟩, next :: after)
termination_by text.length
decreasing_by
  have shorter := readAva_shorter (by assumption)
  simp only [List.length_cons] at shorter
  omega

theorem readAvas_shorter {rules : Rules} {text rest : List UInt8} {rdn : Rdn}
    (read : readAvas rules text = .ok (rdn, rest)) : rest.length < text.length := by
  fun_induction readAvas rules text generalizing rdn with
  | case1 => cases read
  | case2 text ava avaRead =>
      cases read
      exact readAva_shorter avaRead
  | case3 => cases read
  | case4 text ava next after avaRead joins more tail deeper ih =>
      cases read
      have shorter := readAva_shorter avaRead
      have below := ih deeper
      simp only [List.length_cons] at shorter
      omega
  | case5 text ava next after avaRead =>
      cases read
      exact readAva_shorter avaRead

/-- Components with separators between them; a separator promises another component. -/
def readRdns (rules : Rules) (text : List UInt8) : Except Stuck (List Rdn) :=
  match _read : readAvas rules text with
  | .error stuck => .error stuck
  | .ok (rdn, []) => .ok [rdn]
  | .ok (rdn, next :: after) =>
      if rules.dialect.separatesRdns next then
        if rules.strictness.noSpaceAfterSeparator && after.head? == some Octet.space then
          .error ⟨.spaceAfterSeparator, after⟩
        else
          match readRdns rules after with
          | .error stuck => .error stuck
          | .ok others => .ok (rdn :: others)
      else
        .error ⟨.octetAfterRdn next, next :: after⟩
termination_by text.length
decreasing_by
  have shorter := readAvas_shorter (by assumption)
  simp only [List.length_cons] at shorter
  omega

/-- Components with a slash in front of each, in the order written. -/
def readPath (rules : Rules) (text : List UInt8) : Except Stuck (List Rdn) :=
  match text with
  | [] => .ok []
  | next :: after =>
      if next = Octet.slash then
        match _read : readAvas rules after with
        | .error stuck => .error stuck
        | .ok (rdn, rest) =>
            match readPath rules rest with
            | .error stuck => .error stuck
            | .ok others => .ok (rdn :: others)
      else
        .error ⟨.slashExpected, next :: after⟩
termination_by text.length
decreasing_by
  have shorter := readAvas_shorter (by assumption)
  simp only [List.length_cons]
  omega

/-- Whether the text is the root: empty, or padding alone where padding is allowed. -/
def isRootText (rules : Rules) (text : List UInt8) : Bool :=
  text.isEmpty ||
    (rules.dialect.padsWithSpaces && !rules.strictness.noEdgeSpaces &&
      text.all (· == Octet.space))

def readName (rules : Rules) (text : List UInt8) : Except Stuck Dn :=
  if isRootText rules text then .ok Dn.root
  else
    match rules.dialect with
    | .lenient | .strictV3 => (readRdns rules text).map Dn.mk
    | .dce => (readPath rules text).map fun rdns => ⟨rdns.reverse⟩

end Reading

/-- The rules that a flag word selects for reading. -/
def NameFlags.rules (flags : NameFlags) : Except FlagFault Rules :=
  match flags.format? with
  | none => .error (.unknownFormat flags.formatBits)
  | some form =>
      match form.dialect? with
      | none => .error (.notReadable form)
      | some dialect => .ok ⟨dialect, flags.strictness⟩

namespace Dn

def parse (input : List UInt8) (flags : NameFlags) : Except NameError Dn :=
  match flags.rules with
  | .error fault => .error (.badFlags fault)
  | .ok rules =>
      match Reading.readName rules input with
      | .ok name => .ok name
      | .error stuck => .error (stuck.toError input)

def parseText (input : String) (flags : NameFlags) : Except NameError Dn :=
  parse (octetsOf input) flags

def isSpelledBy (input : List UInt8) (flags : NameFlags) : Bool :=
  (parse input flags).isOk

end Dn

end DirectoryName

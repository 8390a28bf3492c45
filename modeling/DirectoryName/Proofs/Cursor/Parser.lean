import DirectoryName.Proofs.Cursor.Walk
import DirectoryName.Reading.Name
import DirectoryName.Text.LetterCase

namespace DirectoryName.Cursor

/-! Names, read with a cursor.

Everything that the readers say by what is left of the input is said by indices here: a number
sign is passed over by adding one, a type is cut out between two positions, an offset is a sum or a
difference, and what a value is made of is collected in a buffer. -/

variable (input : List UInt8) (rules : Rules)

/-- Passes over padding; `fault` is raised where strictness forbids it. -/
def skipSpaces (fault : SyntaxFault) : Walk Unit :=
  if rules.dialect.padsWithSpaces then do
    let next ← peek input
    if next = some Octet.space ∧ rules.strictness.noEdgeSpaces = true then do
      let offset ← here
      refuse offset fault
    else passOver input (· == Octet.space)
  else pure ()

/-! Types. -/

/-- The word `oid.`, whatever the case of its letters. -/
def isOidWord (word : List UInt8) : Bool :=
  Text.asciiLower (Octet.textOf word) == "oid."

/-- Passes over the word `oid.` in front of a digit, where five octets are at hand. -/
def skipOidWord : Walk Unit :=
  match rules.dialect with
  | .lenient => do
      let cursor ← here
      let rest ← slice input cursor input.length
      if 4 < rest.length then do
        let word ← slice rest 0 4
        if isOidWord word then do
          let next ← octetAt rest 4
          if Octet.isDigit next then advance input 4 else pure ()
        else pure ()
      else pure ()
  | .strictV3 | .dce => pure ()

/-- One run of digits; a dot after it promises another one. -/
def arcsRound (arcs : Nat) : Walk (Round Nat Nat) := do
  let next ← peek input
  if next.any Octet.isDigit then do
    passOver input Octet.isDigit
    let after ← peek input
    if after = some Octet.dot then do
      advance input 1
      return .again (arcs + 1)
    else return .last (arcs + 1)
  else do
    let offset ← here
    refuse offset .malformedOid

/-- Passes over a descriptor, or over a number of at least two runs. -/
def passType (start : Nat) : Walk Unit := do
  match ← peek input with
  | none => refuse start .typeExpected
  | some first =>
      if Octet.isLetter first then passOver input Octet.isKeyOctet
      else if Octet.isDigit first then do
        let arcs ← loop input (arcsRound input) 0
        if arcs < 2 then refuse start .malformedOid else pure ()
      else refuse start .typeExpected

def walkType : Walk String := do
  skipOidWord input rules
  let start ← here
  passType input start
  let stop ← here
  let type ← slice input start stop
  return Octet.textOf type

/-! Values. -/

/-- The octets of a value so far, and whether a pair has denoted one outside printable ASCII. -/
structure Buffer where
  octets : List UInt8
  nonprintable : Bool
deriving DecidableEq, Repr

namespace Buffer

def empty : Buffer where
  octets := []
  nonprintable := false

def append (buffer : Buffer) (octets : List UInt8) : Buffer where
  octets := buffer.octets ++ octets
  nonprintable := buffer.nonprintable

/-- An octet that two digits denote. -/
def appendPair (buffer : Buffer) (octet : UInt8) : Buffer where
  octets := buffer.octets ++ [octet]
  nonprintable := buffer.nonprintable || !Octet.isPrintable octet

def flags (buffer : Buffer) : ValueFlags :=
  if buffer.nonprintable then .nonprintable else .string

end Buffer

def decode (octets : List UInt8) (flags : ValueFlags) (offset : Nat) : Walk Value :=
  match Utf8.decode octets with
  | .ok text => pure ⟨String.ofList text, flags⟩
  | .error good => refuse offset (.notUtf8 good)

/-- The escape whose backslash is under the cursor. -/
def unescape (buffer : Buffer) : Walk Buffer := do
  let start ← here
  match input[start + 1]? with
  | none => refuse start .escapeUnterminated
  | some next =>
      match Octet.hexValue? next with
      | some high =>
          match input[start + 2]?.bind Octet.hexValue? with
          | none => refuse (start + 2) .escapeIncomplete
          | some low => do
              moveTo input (start + 3)
              return buffer.appendPair (Octet.ofNibbles high low)
      | none =>
          if rules.strictness.needfulEscapesOnly &&
              !(rules.dialect.needsEscape next || next == 0) then
            refuse start (.escapeNeedless next)
          else do
            moveTo input (start + 2)
            return buffer.append [next]

/-- Passes over padding up to the end of a value. -/
def walkValueEnd : Walk Unit := do
  skipSpaces input rules .spaceAfterValue
  match ← peek input with
  | none => pure ()
  | some next =>
      if rules.dialect.endsValue next then pure ()
      else do
        let offset ← here
        refuse offset (.octetAfterValue next)

/-- The octets that pairs of digits denote, or the first wrong digit with its index; the digits
start at `index`. -/
def hexOctetsFrom (index : Nat) (digits : List UInt8) : Except (UInt8 × Nat) (List UInt8) :=
  match digits with
  | high :: low :: rest =>
      match Octet.hexValue? high, Octet.hexValue? low with
      | none, _ => .error (high, index)
      | some _, none => .error (low, index + 1)
      | some highValue, some lowValue =>
          match hexOctetsFrom (index + 2) rest with
          | .ok octets => .ok (Octet.ofNibbles highValue lowValue :: octets)
          | .error wrong => .error wrong
  | _ => .ok []

/-- A hexadecimal string whose number sign is under the cursor. -/
def walkHexValue : Walk Value := do
  let opening ← here
  let start := opening + 1
  let stop ← aside start (passOver input (Reading.isHexStringOctet rules.dialect))
  let digits ← slice input start stop
  if digits.isEmpty then refuse start .hexStringExpected
  else if digits.length % 2 = 1 then refuse stop .hexDigitsOdd
  else
    match hexOctetsFrom 0 digits with
    | .error (wrong, index) => refuse (start + index) (.hexDigitInvalid wrong)
    | .ok octets => do
        moveTo input stop
        walkValueEnd input rules
        decode octets .binary start

/-- The quote or the backslash under the cursor. -/
def quotedStop (buffer : Buffer) : Walk (Round Buffer Buffer) := do
  let cursor ← here
  let octet ← octetAt input cursor
  if octet = Octet.quote then do
    advance input 1
    return .last buffer
  else do
    let buffer ← unescape input rules buffer
    return .again buffer

/-- What stands before the next quote or backslash, and then that one. -/
def quotedRound (opening : Nat) (buffer : Buffer) : Walk (Round Buffer Buffer) := do
  let cursor ← here
  let rest ← slice input cursor input.length
  match rest.findIdx? fun octet => octet == Octet.quote || octet == Octet.backslash with
  | none => refuse opening .quoteUnterminated
  | some count => do
      let plain ← slice rest 0 count
      advance input count
      quotedStop input rules (buffer.append plain)

/-- A quoted string whose opening quote is under the cursor. -/
def walkQuotedValue : Walk Value := do
  let opening ← here
  advance input 1
  let buffer ← loop input (quotedRound input rules opening) Buffer.empty
  walkValueEnd input rules
  decode buffer.octets buffer.flags (opening + 1)

/-- A buffer, and how much of it stays if the value ends here. -/
structure PlainBuffer where
  buffer : Buffer
  keep : Nat
deriving DecidableEq, Repr

def plainRound (state : PlainBuffer) : Walk (Round PlainBuffer PlainBuffer) := do
  match ← peek input with
  | none => return .over state
  | some octet =>
      if rules.dialect.endsValue octet then return .over state
      else if octet = Octet.backslash then do
        let buffer ← unescape input rules state.buffer
        return .again ⟨buffer, buffer.octets.length⟩
      else
        match Reading.bareFault? rules.dialect octet with
        | some fault => do
            let offset ← here
            refuse offset fault
        | none => do
            let buffer := state.buffer.append [octet]
            advance input 1
            if octet = Octet.space ∧ rules.dialect.padsWithSpaces = true then
              return .again ⟨buffer, state.keep⟩
            else return .again ⟨buffer, buffer.octets.length⟩

/-- Plain text; the plain spaces at its end are cut off where they are padding. -/
def walkPlainValue : Walk Value := do
  let start ← here
  let state ← loop input (plainRound input rules) ⟨.empty, 0⟩
  let trailing ← difference state.buffer.octets.length state.keep
  if 0 < trailing ∧ rules.strictness.noEdgeSpaces = true then do
    let cursor ← here
    let offset ← difference cursor trailing
    refuse offset .spaceAfterValue
  else decode (state.buffer.octets.take state.keep) state.buffer.flags start

def walkValue : Walk Value := do
  match ← peek input with
  | none => walkPlainValue input rules
  | some first =>
      if first = Octet.hash then walkHexValue input rules
      else if first = Octet.quote then
        match rules.dialect with
        | .lenient => walkQuotedValue input rules
        | .strictV3 => do
            let offset ← here
            refuse offset .quotesForbidden
        | .dce => walkPlainValue input rules
      else walkPlainValue input rules

/-! Names. -/

def walkEquals : Walk Unit := do
  let next ← peek input
  if next = some Octet.equals then advance input 1
  else do
    let offset ← here
    refuse offset .equalsExpected

def walkAva : Walk Ava := do
  skipSpaces input rules .spaceForbidden
  let type ← walkType input rules
  skipSpaces input rules .spaceForbidden
  walkEquals input
  skipSpaces input rules .spaceForbidden
  let value ← walkValue input rules
  return ⟨type, value.text, value.flags⟩

def avasRound (avas : List Ava) : Walk (Round (List Ava) (List Ava)) := do
  let next ← peek input
  if next.any rules.dialect.joinsAvas then do
    advance input 1
    let ava ← walkAva input rules
    return .again (avas ++ [ava])
  else return .over avas

/-- A component has an assertion. -/
def rdnOf (avas : List Ava) : Walk Rdn :=
  match Rdn.ofAvas? avas with
  | some rdn => pure rdn
  | none => fun _ => .error (.refused (.badName .emptyRdn))

def walkRdn : Walk Rdn := do
  let first ← walkAva input rules
  let avas ← loop input (avasRound input rules) [first]
  rdnOf avas

/-- A component and the separator after it, which promises another component. -/
def rdnsRound (rdns : List Rdn) : Walk (Round (List Rdn) (List Rdn)) := do
  let rdn ← walkRdn input rules
  match ← peek input with
  | none => return .last (rdns ++ [rdn])
  | some next =>
      if rules.dialect.separatesRdns next then do
        advance input 1
        let after ← peek input
        if rules.strictness.noSpaceAfterSeparator = true ∧ after = some Octet.space then do
          let offset ← here
          refuse offset .spaceAfterSeparator
        else return .again (rdns ++ [rdn])
      else do
        let offset ← here
        refuse offset (.octetAfterRdn next)

/-- A slash and the component behind it. -/
def pathRound (rdns : List Rdn) : Walk (Round (List Rdn) (List Rdn)) := do
  let cursor ← here
  if cursor < input.length then do
    let next ← peek input
    if next = some Octet.slash then do
      advance input 1
      let rdn ← walkRdn input rules
      return .again (rdns ++ [rdn])
    else refuse cursor .slashExpected
  else return .over rdns

/-- Components, the most general first, each behind a slash. -/
def walkPath : Walk Dn := do
  let rdns ← loop input (pathRound input rules) []
  return ⟨rdns.reverse⟩

/-- Components between separators, the most specific first. -/
def walkRdns : Walk Dn := do
  let rdns ← loop input (rdnsRound input rules) []
  return ⟨rdns⟩

def walkName : Walk Dn :=
  if input.isEmpty then pure Dn.root
  else
    match rules.dialect with
    | .dce => walkPath input rules
    | .lenient | .strictV3 =>
        if !rules.strictness.noEdgeSpaces && input.all (· == Octet.space) then pure Dn.root
        else walkRdns input rules

end DirectoryName.Cursor

namespace DirectoryName

/-- Reads a name with a cursor that starts in front of the input. -/
def Dn.parseWithCursor (input : List UInt8) (flags : NameFlags) : Except Cursor.Halt Dn :=
  match flags.rules with
  | .error fault => .error (.refused (.badFlags fault))
  | .ok rules => (Cursor.walkName input rules 0).map Prod.fst

end DirectoryName

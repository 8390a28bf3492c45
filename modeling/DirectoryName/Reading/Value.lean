import DirectoryName.Reading.Basic
import DirectoryName.Flags
import DirectoryName.Utf8

namespace DirectoryName

/-! Values as they are read.

A value is a hexadecimal string, a quoted string or plain text. The latter two
are sequences of pieces: octets that stand for themselves, octets behind a
backslash, and octets given as a backslash and two hexadecimal digits. How the
pieces were spelled decides the value's flags; the octets they denote, taken
together, have to be UTF-8. -/

/-- One written unit of a value. -/
inductive Piece where
  | plain (octet : UInt8)
  | escaped (octet : UInt8)
  | pair (octet : UInt8)
deriving DecidableEq, Repr

namespace Piece

def octet : Piece → UInt8
  | .plain octet | .escaped octet | .pair octet => octet

def isPlainSpace (piece : Piece) : Bool :=
  piece == .plain Octet.space

/-- Whether the piece is a hexadecimal pair for an octet outside printable ASCII. -/
def marksNonprintable : Piece → Bool
  | .pair octet => !Octet.isPrintable octet
  | _ => false

/-- The flags of a value spelled with these pieces. -/
def flags (pieces : List Piece) : ValueFlags :=
  if pieces.any marksNonprintable then .nonprintable else .string

def finalSpaces (pieces : List Piece) : List Piece :=
  pieces.reverse.takeWhile isPlainSpace

def beforeFinalSpaces (pieces : List Piece) : List Piece :=
  (pieces.reverse.dropWhile isPlainSpace).reverse

end Piece

/-- A decoded value with the flags of its spelling. -/
structure Value where
  text : String
  flags : ValueFlags
deriving DecidableEq, Repr

namespace Reading

/-- Decodes a value's octets; a failure is reported at the octets left in `start`. -/
def decodeValue (octets : List UInt8) (flags : ValueFlags) (start : List UInt8) :
    Except Stuck Value :=
  match Utf8.decode octets with
  | .ok text => .ok ⟨String.ofList text, flags⟩
  | .error good => .error ⟨.notUtf8 good, start⟩

/-- The escape whose backslash stands right before `text`. -/
def readEscape (rules : Rules) (text : List UInt8) : Except Stuck (Piece × List UInt8) :=
  match text with
  | [] => .error ⟨.escapeUnterminated, [Octet.backslash]⟩
  | next :: rest =>
      match Octet.hexValue? next with
      | some high =>
          match rest with
          | [] => .error ⟨.escapeIncomplete, []⟩
          | last :: after =>
              match Octet.hexValue? last with
              | some low => .ok (.pair (Octet.ofNibbles high low), after)
              | none => .error ⟨.escapeIncomplete, last :: after⟩
      | none =>
          if rules.strictness.needfulEscapesOnly &&
              !(rules.dialect.needsEscape next || next == 0) then
            .error ⟨.escapeNeedless next, Octet.backslash :: next :: rest⟩
          else
            .ok (.escaped next, rest)

theorem readEscape_shorter {rules : Rules} {text rest : List UInt8} {piece : Piece}
    (read : readEscape rules text = .ok (piece, rest)) : rest.length < text.length := by
  unfold readEscape at read
  grind

/-- The pieces up to the closing quote, which is passed over. `start` is what was
left at the opening quote. -/
def readQuotedPieces (rules : Rules) (start text : List UInt8) :
    Except Stuck (List Piece × List UInt8) :=
  match text with
  | [] => .error ⟨.quoteUnterminated, start⟩
  | octet :: after =>
      if octet = Octet.quote then .ok ([], after)
      else if octet = Octet.backslash then
        match _escape : readEscape rules after with
        | .error stuck => .error stuck
        | .ok (piece, remaining) =>
            match readQuotedPieces rules start remaining with
            | .ok (pieces, rest) => .ok (piece :: pieces, rest)
            | .error stuck => .error stuck
      else
        match readQuotedPieces rules start after with
        | .ok (pieces, rest) => .ok (.plain octet :: pieces, rest)
        | .error stuck => .error stuck
termination_by text.length
decreasing_by
  · have shorter := readEscape_shorter (by assumption)
    simp only [List.length_cons]
    omega
  · simp only [List.length_cons]
    omega

theorem readQuotedPieces_shorter {rules : Rules} {start text rest : List UInt8}
    {pieces : List Piece} (read : readQuotedPieces rules start text = .ok (pieces, rest)) :
    rest.length < text.length := by
  fun_induction readQuotedPieces rules start text generalizing pieces with
  | case1 => cases read
  | case2 =>
      cases read
      simp
  | case3 => cases read
  | case4 after piece remaining escape more _ deeper _ ih =>
      cases read
      have shorter := readEscape_shorter escape
      have below := ih deeper
      simp only [List.length_cons]
      omega
  | case5 => cases read
  | case6 octet after _ _ more tail deeper ih =>
      cases read
      have below := ih deeper
      simp only [List.length_cons]
      omega
  | case7 => cases read

/-- The fault of an octet that has to be escaped in plain text. -/
def bareFault? (dialect : Dialect) (octet : UInt8) : Option SyntaxFault :=
  match dialect with
  | .dce => none
  | .lenient | .strictV3 =>
      if octet = Octet.semicolon then some .semicolonUnescaped
      else if octet = Octet.quote || octet = Octet.less || octet = Octet.greater then
        some (.octetUnescaped octet)
      else none

/-- The pieces up to the octet that ends the value, which is left. -/
def readPlainPieces (rules : Rules) (text : List UInt8) :
    Except Stuck (List Piece × List UInt8) :=
  match text with
  | [] => .ok ([], [])
  | octet :: after =>
      if rules.dialect.endsValue octet then .ok ([], octet :: after)
      else if octet = Octet.backslash then
        match _escape : readEscape rules after with
        | .error stuck => .error stuck
        | .ok (piece, remaining) =>
            match readPlainPieces rules remaining with
            | .ok (pieces, rest) => .ok (piece :: pieces, rest)
            | .error stuck => .error stuck
      else
        match bareFault? rules.dialect octet with
        | some fault => .error ⟨fault, octet :: after⟩
        | none =>
            match readPlainPieces rules after with
            | .ok (pieces, rest) => .ok (.plain octet :: pieces, rest)
            | .error stuck => .error stuck
termination_by text.length
decreasing_by
  · have shorter := readEscape_shorter (by assumption)
    simp only [List.length_cons]
    omega
  · simp only [List.length_cons]
    omega

theorem readPlainPieces_length_le {rules : Rules} {text rest : List UInt8}
    {pieces : List Piece} (read : readPlainPieces rules text = .ok (pieces, rest)) :
    rest.length ≤ text.length := by
  fun_induction readPlainPieces rules text generalizing pieces with
  | case1 =>
      cases read
      exact Nat.le_refl _
  | case2 =>
      cases read
      exact Nat.le_refl _
  | case3 => cases read
  | case4 after piece remaining escape more _ deeper _ ih =>
      cases read
      have shorter := readEscape_shorter escape
      have below := ih deeper
      simp only [List.length_cons]
      omega
  | case5 => cases read
  | case6 => cases read
  | case7 octet after _ _ _ more tail deeper ih =>
      cases read
      have below := ih deeper
      simp only [List.length_cons]
      omega
  | case8 => cases read

/-- What may follow a hexadecimal or a quoted value: padding, then the end of the
value. -/
def finishValue (rules : Rules) (text : List UInt8) : Except Stuck (List UInt8) :=
  match skipPadding rules .spaceAfterValue text with
  | .error stuck => .error stuck
  | .ok [] => .ok []
  | .ok (next :: rest) =>
      if rules.dialect.endsValue next then .ok (next :: rest)
      else .error ⟨.octetAfterValue next, next :: rest⟩

theorem finishValue_length_le {rules : Rules} {text rest : List UInt8}
    (finished : finishValue rules text = .ok rest) : rest.length ≤ text.length := by
  unfold finishValue at finished
  split at finished
  · cases finished
  · next skipped =>
      cases finished
      exact skipPadding_length_le skipped
  · next skipped =>
      split at finished
      · cases finished
        exact skipPadding_length_le skipped
      · cases finished

/-- The octets that pairs of hexadecimal digits denote; on failure, the digits
from the first wrong one on. A digit without a partner is passed over. -/
def hexOctets (digits : List UInt8) : Except (UInt8 × List UInt8) (List UInt8) :=
  match digits with
  | high :: low :: rest =>
      match Octet.hexValue? high, Octet.hexValue? low with
      | none, _ => .error (high, high :: low :: rest)
      | some _, none => .error (low, low :: rest)
      | some highValue, some lowValue =>
          match hexOctets rest with
          | .ok octets => .ok (Octet.ofNibbles highValue lowValue :: octets)
          | .error wrong => .error wrong
  | _ => .ok []

def isHexStringOctet (dialect : Dialect) (octet : UInt8) : Bool :=
  octet != Octet.space && !dialect.endsValue octet

/-- A hexadecimal string whose number sign stands right before `text`. -/
def readHexValue (rules : Rules) (text : List UInt8) : Except Stuck (Value × List UInt8) :=
  if (text.takeWhile (isHexStringOctet rules.dialect)).isEmpty then
    .error ⟨.hexStringExpected, text⟩
  else if (text.takeWhile (isHexStringOctet rules.dialect)).length % 2 = 1 then
    .error ⟨.hexDigitsOdd, text.dropWhile (isHexStringOctet rules.dialect)⟩
  else
    match hexOctets (text.takeWhile (isHexStringOctet rules.dialect)) with
    | .error (wrong, digits) =>
        .error ⟨.hexDigitInvalid wrong,
          digits ++ text.dropWhile (isHexStringOctet rules.dialect)⟩
    | .ok octets =>
        match finishValue rules (text.dropWhile (isHexStringOctet rules.dialect)) with
        | .error stuck => .error stuck
        | .ok rest =>
            match decodeValue octets .binary text with
            | .ok value => .ok (value, rest)
            | .error stuck => .error stuck

theorem readHexValue_length_le {rules : Rules} {text rest : List UInt8} {value : Value}
    (read : readHexValue rules text = .ok (value, rest)) : rest.length ≤ text.length := by
  unfold readHexValue at read
  split at read
  · cases read
  · split at read
    · cases read
    · split at read
      · cases read
      · split at read
        · cases read
        · next finished =>
            split at read
            · cases read
              exact Nat.le_trans (finishValue_length_le finished) (dropWhile_length_le _ _)
            · cases read

/-- A quoted string whose opening quote stands right before `text`. -/
def readQuotedValue (rules : Rules) (text : List UInt8) : Except Stuck (Value × List UInt8) :=
  match readQuotedPieces rules (Octet.quote :: text) text with
  | .error stuck => .error stuck
  | .ok (pieces, after) =>
      match finishValue rules after with
      | .error stuck => .error stuck
      | .ok rest =>
          match decodeValue (pieces.map Piece.octet) (Piece.flags pieces) text with
          | .ok value => .ok (value, rest)
          | .error stuck => .error stuck

theorem readQuotedValue_length_le {rules : Rules} {text rest : List UInt8} {value : Value}
    (read : readQuotedValue rules text = .ok (value, rest)) : rest.length ≤ text.length := by
  unfold readQuotedValue at read
  split at read
  · cases read
  · next piecesRead =>
      split at read
      · cases read
      · next finished =>
          split at read
          · cases read
            exact Nat.le_trans (finishValue_length_le finished)
              (Nat.le_of_lt (readQuotedPieces_shorter piecesRead))
          · cases read

/-- Plain text; the plain spaces at its end are padding where there is padding. -/
def readPlainValue (rules : Rules) (text : List UInt8) : Except Stuck (Value × List UInt8) :=
  match readPlainPieces rules text with
  | .error stuck => .error stuck
  | .ok (pieces, rest) =>
      if rules.dialect.padsWithSpaces && !(Piece.finalSpaces pieces).isEmpty then
        if rules.strictness.noEdgeSpaces then
          .error ⟨.spaceAfterValue, (Piece.finalSpaces pieces).map Piece.octet ++ rest⟩
        else finish (Piece.beforeFinalSpaces pieces) rest
      else finish pieces rest
where
  finish (pieces : List Piece) (rest : List UInt8) : Except Stuck (Value × List UInt8) :=
    match decodeValue (pieces.map Piece.octet) (Piece.flags pieces) text with
    | .ok value => .ok (value, rest)
    | .error stuck => .error stuck

theorem readPlainValue_finish_rest {text rest after : List UInt8} {pieces : List Piece}
    {value : Value} (finished : readPlainValue.finish text pieces rest = .ok (value, after)) :
    after = rest := by
  unfold readPlainValue.finish at finished
  split at finished
  · cases finished
    rfl
  · cases finished

theorem readPlainValue_length_le {rules : Rules} {text rest : List UInt8} {value : Value}
    (read : readPlainValue rules text = .ok (value, rest)) : rest.length ≤ text.length := by
  unfold readPlainValue at read
  split at read
  · cases read
  · next pieces remaining piecesRead =>
      have bound := readPlainPieces_length_le piecesRead
      split at read
      · split at read
        · cases read
        · exact readPlainValue_finish_rest read ▸ bound
      · exact readPlainValue_finish_rest read ▸ bound

/-- A value in the form that its first octet selects. -/
def readValue (rules : Rules) (text : List UInt8) : Except Stuck (Value × List UInt8) :=
  match text with
  | [] => readPlainValue rules []
  | first :: after =>
      if first = Octet.hash then readHexValue rules after
      else if first = Octet.quote then
        match rules.dialect with
        | .lenient => readQuotedValue rules after
        | .strictV3 => .error ⟨.quotesForbidden, first :: after⟩
        | .dce => readPlainValue rules (first :: after)
      else readPlainValue rules (first :: after)

theorem readValue_length_le {rules : Rules} {text rest : List UInt8} {value : Value}
    (read : readValue rules text = .ok (value, rest)) : rest.length ≤ text.length := by
  unfold readValue at read
  split at read
  · exact readPlainValue_length_le read
  · split at read
    · exact Nat.le_trans (readHexValue_length_le read) (Nat.le_succ _)
    · split at read
      · split at read
        · exact Nat.le_trans (readQuotedValue_length_le read) (Nat.le_succ _)
        · cases read
        · exact readPlainValue_length_le read
      · exact readPlainValue_length_le read

end Reading

end DirectoryName

import DirectoryName.Proofs.Reading.Fault

namespace DirectoryName

/-! Values never break off within a character.

The readers look at single octets: a backslash protects only the first octet of a character,
and a value ends at an octet. Whatever is dropped is ASCII, though, and outside ASCII no octet
of a character is that of another, so text without pairs of digits stays text. -/

/-- The octets are those of a text. -/
def IsUtf8 (octets : List UInt8) : Prop :=
  ∃ text, octets = octetsOf text

namespace IsUtf8

variable {octet : UInt8} {before after octets : List UInt8}

theorem nil : IsUtf8 [] :=
  ⟨"", rfl⟩

theorem encode (text : List Char) : IsUtf8 (Utf8.encode text) :=
  ⟨String.ofList text, (octetsOf_ofList text).symm⟩

theorem append (first : IsUtf8 before) (second : IsUtf8 after) : IsUtf8 (before ++ after) := by
  obtain ⟨first, rfl⟩ := first
  obtain ⟨second, rfl⟩ := second
  exact ⟨first ++ second, (octetsOf_append first second).symm⟩

theorem encodeChar (character : Char) : IsUtf8 (String.utf8EncodeChar character) := by
  have single := encode [character]
  rwa [Utf8.encode_cons, Utf8.encode, List.flatMap_nil, List.append_nil] at single

/-- An octet of ASCII is a character of its own: other characters end before it. -/
theorem of_encode_eq (ascii : octet.toNat < 0x80) {text : List Char}
    (same : Utf8.encode text = before ++ octet :: after) : IsUtf8 before ∧ IsUtf8 after := by
  induction text generalizing before with
  | nil => simp [Utf8.encode] at same
  | cons first others ih =>
      rw [Utf8.encode_cons, List.append_eq_append_iff] at same
      obtain ⟨between, rfl, rest⟩ | ⟨begun, whole, rest⟩ := same
      · obtain ⟨isBefore, isAfter⟩ := ih rest
        exact ⟨(encodeChar first).append isBefore, isAfter⟩
      · cases begun with
        | nil =>
            rw [List.append_nil] at whole
            exact ⟨whole ▸ encodeChar first, (@ih [] rest.symm).2⟩
        | cons next begun =>
            obtain ⟨rfl, rfl⟩ := List.cons.inj rest
            have within : octet ∈ String.utf8EncodeChar first := by simp [whole]
            have only := Octet.eq_toChar_of_mem ascii within
            rw [only, Octet.encodeChar_toChar ascii, List.singleton_eq_append_iff] at whole
            obtain ⟨rfl, same⟩ | ⟨-, none⟩ := whole
            · obtain ⟨-, rfl⟩ := List.cons.inj same
              exact ⟨nil, encode others⟩
            · cases none

theorem of_ascii (ascii : octet.toNat < 0x80) (isUtf8 : IsUtf8 (before ++ octet :: after)) :
    IsUtf8 before ∧ IsUtf8 after := by
  obtain ⟨text, same⟩ := isUtf8
  exact of_encode_eq ascii same.symm

theorem of_follows (isUtf8 : IsUtf8 (before ++ after))
    (follows : Reading.Follows (fun octet => octet.toNat < 0x80) after) : IsUtf8 before := by
  cases after with
  | nil => rwa [List.append_nil] at isUtf8
  | cons octet after =>
      rw [Reading.follows_cons] at follows
      exact (isUtf8.of_ascii follows).1

theorem decode (isUtf8 : IsUtf8 octets) : ∃ text, Utf8.decode octets = .ok text := by
  obtain ⟨text, rfl⟩ := isUtf8
  exact ⟨text.toList, Utf8.decode_encode text.toList⟩

end IsUtf8

/-- No backslash has a hexadecimal digit behind it. -/
def NoPair (text : List UInt8) : Prop :=
  ∀ digit value, HexDigit digit value → ¬[Octet.backslash, digit] <:+: text

theorem NoPair.of_infix {part text : List UInt8} (noPair : NoPair text) (within : part <:+: text) :
    NoPair part :=
  fun digit value isDigit pair => noPair digit value isDigit (pair.trans within)

theorem noPair_cons {octet : UInt8} {text : List UInt8} :
    NoPair (octet :: text) ↔
      (octet = Octet.backslash → text.head?.bind Octet.hexValue? = none) ∧ NoPair text := by
  constructor
  · intro noPair
    refine ⟨?_, noPair.of_infix (List.suffix_cons octet text).isInfix⟩
    rintro rfl
    rw [Option.bind_eq_none_iff]
    intro digit first
    rw [Octet.hexValue?_eq_none_iff]
    intro value isDigit
    obtain ⟨rest, rfl⟩ := List.head?_eq_some_iff.mp first
    exact noPair digit value isDigit ⟨[], rest, rfl⟩
  · rintro ⟨first, noPair⟩ digit value isDigit pair
    obtain pair | pair := List.infix_cons_iff.mp pair
    · obtain ⟨rest, same⟩ := pair
      obtain ⟨rfl, rfl⟩ := List.cons.inj same
      exact Octet.hexValue?_eq_none_iff.mp (first rfl) value isDigit
    · exact noPair digit value isDigit pair

instance instDecidablePredNoPair : DecidablePred NoPair
  | [] => .isTrue fun _ _ _ pair => by simp at pair
  | _ :: text =>
      have := instDecidablePredNoPair text
      decidable_of_iff' _ noPair_cons

/-- The octet behind a backslash may be the first of several that make a character: they
belong together all the same. -/
theorem PiecesSpelling.isUtf8_append {rules : Rules} {reserved text front : List UInt8}
    {pieces : List Piece} (spelled : PiecesSpelling rules reserved pieces text)
    (noPair : NoPair text) (isUtf8 : IsUtf8 (front ++ text)) :
    IsUtf8 (front ++ pieces.map Piece.octet) := by
  induction spelled generalizing front with
  | nil => exact isUtf8
  | @plain octet pieces text _ _ ih =>
      rw [← List.singleton_append, ← List.append_assoc] at isUtf8
      have others := ih (noPair.of_infix (List.suffix_cons octet text).isInfix) isUtf8
      rwa [List.append_assoc] at others
  | @escape piece pieces escape text first _ ih =>
      have rest := noPair.of_infix (List.suffix_append escape text).isInfix
      cases first with
      | escaped octet =>
          obtain ⟨before, after⟩ := isUtf8.of_ascii (by decide)
          have joined : IsUtf8 (front ++ [octet] ++ text) := by
            rw [List.append_assoc]
            exact before.append after
          have others := ih rest joined
          rwa [List.append_assoc] at others
      | @pair high low highValue lowValue highDigit _ =>
          exact absurd ⟨[], low :: text, rfl⟩ (noPair high highValue highDigit)

theorem PiecesSpelling.octets_isUtf8 {rules : Rules} {reserved text : List UInt8}
    {pieces : List Piece} (spelled : PiecesSpelling rules reserved pieces text)
    (noPair : NoPair text) (isUtf8 : IsUtf8 text) : IsUtf8 (pieces.map Piece.octet) :=
  @isUtf8_append _ _ _ [] _ spelled noPair isUtf8

namespace Reading

variable {rules : Rules} {text : List UInt8} {stuck : Stuck}

/-! What stops a reader before a value is complete is its syntax. -/

theorem skipPadding_fault {fault : SyntaxFault}
    (read : skipPadding rules fault text = .error stuck) : stuck.fault = fault := by
  unfold skipPadding at read
  split at read
  · split at read
    · cases read
      rfl
    · cases read
  · cases read

theorem readArcs_syntactic (read : readArcs text = .error stuck) :
    stuck.fault.code = ResultCode.invalidSyntax := by
  fun_induction readArcs text with
  | case1 => cases read; rfl
  | case2 => cases read
  | case3 => cases read
  | case4 _ _ _ _ deeper _ ih => cases read; exact ih deeper
  | case5 => cases read

theorem readType_syntactic {dialect : Dialect} (read : readType dialect text = .error stuck) :
    stuck.fault.code = ResultCode.invalidSyntax := by
  unfold readType readBareType at read
  grind [readArcs_syntactic, SyntaxFault.code]

theorem passEquals_syntactic (read : passEquals text = .error stuck) :
    stuck.fault.code = ResultCode.invalidSyntax := by
  unfold passEquals at read
  grind [SyntaxFault.code]

theorem readEscape_syntactic (read : readEscape rules text = .error stuck) :
    stuck.fault.code = ResultCode.invalidSyntax := by
  unfold readEscape at read
  grind [SyntaxFault.code]

theorem readQuotedPieces_syntactic {start : List UInt8}
    (read : readQuotedPieces rules start text = .error stuck) :
    stuck.fault.code = ResultCode.invalidSyntax := by
  fun_induction readQuotedPieces rules start text with
  | case1 => cases read; rfl
  | case2 => cases read
  | case3 _ _ escape => cases read; exact readEscape_syntactic escape
  | case4 => cases read
  | case5 _ _ _ _ _ deeper _ ih => cases read; exact ih deeper
  | case6 => cases read
  | case7 _ _ _ _ _ deeper ih => cases read; exact ih deeper

theorem bareFault?_syntactic {dialect : Dialect} {octet : UInt8} {fault : SyntaxFault}
    (bare : bareFault? dialect octet = some fault) : fault.code = ResultCode.invalidSyntax := by
  unfold bareFault? at bare
  grind [SyntaxFault.code]

theorem readPlainPieces_syntactic (read : readPlainPieces rules text = .error stuck) :
    stuck.fault.code = ResultCode.invalidSyntax := by
  fun_induction readPlainPieces rules text with
  | case1 => cases read
  | case2 => cases read
  | case3 _ _ escape => cases read; exact readEscape_syntactic escape
  | case4 => cases read
  | case5 _ _ _ _ _ deeper _ ih => cases read; exact ih deeper
  | case6 _ _ _ _ fault bare => cases read; exact bareFault?_syntactic bare
  | case7 => cases read
  | case8 _ _ _ _ _ _ deeper ih => cases read; exact ih deeper

theorem finishValue_syntactic (read : finishValue rules text = .error stuck) :
    stuck.fault.code = ResultCode.invalidSyntax := by
  unfold finishValue at read
  split at read
  · next skipped =>
      cases read
      rw [skipPadding_fault skipped]
      rfl
  · cases read
  · split at read <;> cases read
    rfl

/-! Complete values of plain and quoted text decode. -/

theorem endsValue_ascii {dialect : Dialect} {octet : UInt8}
    (ends : dialect.endsValue octet = true) : octet.toNat < 0x80 := by
  have delimiter := mem_of_endsValue ends
  simp only [List.mem_cons, List.not_mem_nil, or_false] at delimiter
  rcases delimiter with rfl | rfl | rfl | rfl <;> decide

theorem readPlainValue_finish_ne_error {pieces : List Piece} {rest : List UInt8}
    (isUtf8 : IsUtf8 (pieces.map Piece.octet)) :
    readPlainValue.finish text pieces rest ≠ .error stuck := by
  intro read
  unfold readPlainValue.finish at read
  split at read
  · cases read
  · next decoded =>
      obtain ⟨good, failed, -⟩ := decodeValue_eq_error decoded
      obtain ⟨value, decodes⟩ := isUtf8.decode
      cases decodes.symm.trans failed

theorem readPlainValue_syntactic (isUtf8 : IsUtf8 text) (noPair : NoPair text)
    (read : readPlainValue rules text = .error stuck) :
    stuck.fault.code = ResultCode.invalidSyntax := by
  unfold readPlainValue at read
  split at read
  · next piecesRead =>
      cases read
      exact readPlainPieces_syntactic piecesRead
  next pieces rest piecesRead =>
  obtain ⟨used, rfl, spelled, follows⟩ := readPlainPieces_sound piecesRead
  have usedUtf8 := isUtf8.of_follows (follows.mono fun _ => endsValue_ascii)
  have usedNoPair := noPair.of_infix (List.prefix_append used rest).isInfix
  split at read
  · split at read
    · cases read
      rfl
    · obtain ⟨before, rfl, beforeSpelled⟩ := spelled.beforeFinalSpaces
      have beforeUtf8 : IsUtf8 before := usedUtf8.of_follows (by
        rw [Piece.map_octet_finalSpaces]
        cases (Piece.finalSpaces pieces).length with
        | zero => exact follows_nil _
        | succ count => exact (follows_cons _ _ _).mpr (by decide))
      have beforeNoPair := usedNoPair.of_infix (List.prefix_append before _).isInfix
      exact absurd read (readPlainValue_finish_ne_error
        (beforeSpelled.octets_isUtf8 beforeNoPair beforeUtf8))
  · exact absurd read (readPlainValue_finish_ne_error
      (spelled.octets_isUtf8 usedNoPair usedUtf8))

theorem readQuotedValue_syntactic (isUtf8 : IsUtf8 text) (noPair : NoPair text)
    (read : readQuotedValue rules text = .error stuck) :
    stuck.fault.code = ResultCode.invalidSyntax := by
  unfold readQuotedValue at read
  split at read
  · next piecesRead =>
      cases read
      exact readQuotedPieces_syntactic piecesRead
  next pieces after piecesRead =>
  obtain ⟨inner, rfl, spelled⟩ := readQuotedPieces_sound piecesRead
  split at read
  · next finished =>
      cases read
      exact finishValue_syntactic finished
  · split at read
    · cases read
    · next decoded =>
        cases read
        obtain ⟨good, failed, -⟩ := decodeValue_eq_error decoded
        have innerNoPair := noPair.of_infix (List.prefix_append inner _).isInfix
        obtain ⟨value, decodes⟩ :=
          (spelled.octets_isUtf8 innerNoPair (isUtf8.of_ascii (by decide)).1).decode
        cases decodes.symm.trans failed

/-! A value that does not decode is a hexadecimal string. -/

/-- Text that begins with a hexadecimal string whose octets are not UTF-8 after so many good
ones. -/
inductive UndecodableHexString (rules : Rules) (good : Nat) : List UInt8 → Prop where
  | intro {octets digits rest : List UInt8} (spelled : HexSpelling octets digits)
      (ends :
        Follows (fun octet => octet = Octet.space ∨ rules.dialect.endsValue octet = true) rest)
      (undecodable : Utf8.decode octets = .error good) :
      UndecodableHexString rules good (Octet.hash :: (digits ++ rest))

theorem readHexValue_undecodable (read : readHexValue rules text = .error stuck)
    (undecodable : stuck.fault.code ≠ ResultCode.invalidSyntax) :
    ∃ good, UndecodableHexString rules good (Octet.hash :: text) ∧
      stuck = ⟨.notUtf8 good, text⟩ := by
  have ends : Follows (fun octet => octet = Octet.space ∨ rules.dialect.endsValue octet = true)
      (text.dropWhile (isHexStringOctet rules.dialect)) :=
    (follows_dropWhile _ text).mono fun octet stops => by
      simpa only [isHexStringOctet, Bool.and_eq_false_iff, bne_eq_false_iff_eq,
        Bool.not_eq_false'] using stops
  unfold readHexValue at read
  split at read
  · cases read
    exact absurd rfl undecodable
  split at read
  · cases read
    exact absurd rfl undecodable
  next even =>
  split at read
  · cases read
    exact absurd rfl undecodable
  next octets digitsRead =>
  split at read
  · next finished =>
      cases read
      rw [finishValue_syntactic finished] at undecodable
      exact absurd rfl undecodable
  split at read
  · cases read
  · next decoded =>
      cases read
      obtain ⟨good, failed, rfl⟩ := decodeValue_eq_error decoded
      have behind := UndecodableHexString.intro (hexOctets_sound (by omega) digitsRead) ends failed
      rw [List.takeWhile_append_dropWhile] at behind
      exact ⟨good, behind, rfl⟩

theorem readValue_undecodable (isUtf8 : IsUtf8 text) (noPair : NoPair text)
    (read : readValue rules text = .error stuck)
    (undecodable : stuck.fault.code ≠ ResultCode.invalidSyntax) :
    ∃ good after, UndecodableHexString rules good text ∧ text = Octet.hash :: after ∧
      stuck = ⟨.notUtf8 good, after⟩ := by
  have plain (read : readPlainValue rules text = .error stuck) : False :=
    undecodable (readPlainValue_syntactic isUtf8 noPair read)
  unfold readValue at read
  split at read
  · exact (plain read).elim
  next first after =>
  split at read
  · next hash =>
      subst hash
      obtain ⟨good, behind, stopped⟩ := readHexValue_undecodable read undecodable
      exact ⟨good, after, behind, rfl, stopped⟩
  split at read
  · next quote =>
      subst quote
      split at read
      · have afterUtf8 := (@IsUtf8.of_ascii _ [] after (by decide) isUtf8).2
        have afterNoPair := noPair.of_infix (List.suffix_cons _ after).isInfix
        rw [readQuotedValue_syntactic afterUtf8 afterNoPair read] at undecodable
        exact absurd rfl undecodable
      · cases read
        exact absurd rfl undecodable
      · exact (plain read).elim
  · exact (plain read).elim

theorem readAva_undecodable (read : readAva rules text = .error stuck)
    (undecodable : stuck.fault.code ≠ ResultCode.invalidSyntax) :
    ∃ opening after, text = opening ++ after ∧ AvaOpening rules opening ∧
      readValue rules after = .error stuck := by
  have spaceless : stuck.fault ≠ .spaceForbidden := fun same => undecodable (by rw [same]; rfl)
  simp only [readAva, bind_eq_error_iff, Prod.exists] at read
  rcases read with skipped | ⟨afterPadding, skipped, read⟩
  · exact absurd (skipPadding_fault skipped) spaceless
  obtain ⟨beforeType, rfl, typePadded, _⟩ := skipPadding_eq_ok_iff.mp skipped
  rcases read with typeRead | ⟨type, _, typeRead, read⟩
  · exact absurd (readType_syntactic typeRead) undecodable
  obtain ⟨typeText, rfl, typed⟩ := readType_sound typeRead
  rcases read with skipped | ⟨afterType, skipped, read⟩
  · exact absurd (skipPadding_fault skipped) spaceless
  obtain ⟨beforeEquals, rfl, equalsPadded, _⟩ := skipPadding_eq_ok_iff.mp skipped
  rcases read with passed | ⟨_, passed, read⟩
  · exact absurd (passEquals_syntactic passed) undecodable
  rw [passEquals_eq_ok_iff] at passed
  subst passed
  rcases read with skipped | ⟨after, skipped, read⟩
  · exact absurd (skipPadding_fault skipped) spaceless
  obtain ⟨beforeValue, rfl, valuePadded, _⟩ := skipPadding_eq_ok_iff.mp skipped
  rcases read with valueRead | ⟨_, _, _, returned⟩
  · exact ⟨_, after, by simp, .intro typePadded typed equalsPadded valuePadded, valueRead⟩
  · cases returned

end Reading

variable {rules : Rules} {text : List UInt8}

/-- A value begins behind an equals sign or behind a space, so it begins with a character. -/
theorem AvaOpening.isUtf8_behind {front opening after : List UInt8}
    (opened : AvaOpening rules opening) (isUtf8 : IsUtf8 (front ++ opening ++ after)) :
    IsUtf8 after := by
  obtain @⟨type, typeText, beforeType, afterType, beforeValue, _, _, _, valuePadded⟩ := opened
  simp only [List.append_assoc, List.cons_append] at isUtf8
  simp only [← List.append_assoc] at isUtf8
  have behindEquals := (isUtf8.of_ascii (by decide)).2
  obtain rfl | ⟨spaces, last, rfl⟩ := List.eq_nil_or_concat beforeValue
  · exact behindEquals
  · obtain rfl := valuePadded.1 last (by simp)
    rw [List.concat_eq_append, List.append_assoc] at behindEquals
    exact (behindEquals.of_ascii (by decide)).2

namespace Reading

theorem readName_undecodable {stuck : Stuck} (isUtf8 : IsUtf8 text) (noPair : NoPair text)
    (read : readName rules text = .error stuck)
    (undecodable : stuck.fault.code ≠ ResultCode.invalidSyntax) :
    ∃ good before opening after, text = before ++ Octet.hash :: after ∧
      AvaOpening rules opening ∧ NameBreak rules opening before ∧
      UndecodableHexString rules good (Octet.hash :: after) ∧ stuck = ⟨.notUtf8 good, after⟩ := by
  have inAva {text} (read : readAva rules text = .error stuck) :=
    readAva_undecodable read undecodable
  obtain ⟨slash, -⟩ | ⟨opening, before, after, rfl, ⟨opened, valueRead⟩, within⟩ :=
    readName_error inAva (fun space => absurd (by rw [space]; rfl) undecodable) read
  · exact absurd (by rw [slash]; rfl) undecodable
  · obtain ⟨front, rfl⟩ := within.suffix
    have afterUtf8 := opened.isUtf8_behind isUtf8
    have afterNoPair := noPair.of_infix (List.suffix_append _ after).isInfix
    obtain ⟨good, digits, behind, rfl, rfl⟩ :=
      readValue_undecodable afterUtf8 afterNoPair valueRead undecodable
    exact ⟨good, _, opening, digits, rfl, opened, within, behind, rfl⟩

end Reading

/-- In text without pairs of digits a value that is not UTF-8 is a hexadecimal string, and it is
reported behind its number sign. Whatever pieces are read from such text decode, so plain and
quoted values are stopped by their syntax only. -/
theorem Dn.parseText_undecodable_in_hexString (text : String) (noPair : NoPair (octetsOf text)) :
    (∀ flags error, parseText text flags = .error error →
      error.code = ResultCode.decodingError →
        ∃ rules good before opening after, flags.rules = .ok rules ∧
          octetsOf text = before ++ Octet.hash :: after ∧
          AvaOpening rules opening ∧ NameBreak rules opening before ∧
          Reading.UndecodableHexString rules good (Octet.hash :: after) ∧
          error = .badSyntax (before.length + 1) (.notUtf8 good)) ∧
    (∀ rules reserved pieces, PiecesSpelling rules reserved pieces (octetsOf text) →
      ∃ value, Utf8.decode (pieces.map Piece.octet) = .ok value) ∧
    ∀ rules stuck,
      Reading.readPlainValue rules (octetsOf text) = .error stuck ∨
          Reading.readQuotedValue rules (octetsOf text) = .error stuck →
        stuck.fault.code = ResultCode.invalidSyntax := by
  have isUtf8 : IsUtf8 (octetsOf text) := ⟨text, rfl⟩
  refine ⟨?_, fun _ _ _ spelled => (spelled.octets_isUtf8 noPair isUtf8).decode, ?_⟩
  · intro flags error failed code
    unfold parseText parse at failed
    split at failed
    · cases failed
      cases code
    next rules found =>
    split at failed
    · cases failed
    next stuck read =>
    cases failed
    have undecodable : stuck.fault.code ≠ ResultCode.invalidSyntax := by
      rw [show stuck.fault.code = ResultCode.decodingError from code]
      decide
    obtain ⟨good, before, opening, after, same, opened, within, behind, rfl⟩ :=
      Reading.readName_undecodable isUtf8 noPair read undecodable
    refine ⟨rules, good, before, opening, after, found, same, opened, within, behind, ?_⟩
    have offset : before.length + (after.length + 1) - after.length = before.length + 1 := by omega
    rw [Stuck.toError, same, List.length_append, List.length_cons, offset]
  · rintro rules stuck (read | read)
    · exact Reading.readPlainValue_syntactic isUtf8 noPair read
    · exact Reading.readQuotedValue_syntactic isUtf8 noPair read

/-- Before the string stand an escaped character of two octets, with spaces behind it that are
cut off, and another one between quotes. In the second text the octet behind such a character
stops a plain value, though not a quoted one. -/
theorem Dn.parseText_undecodable_in_hexString_behind_escapes :
    NoPair (octetsOf "cn=\\é  ,o=\"\\ü\",ou=#c3") ∧
      parseText "cn=\\é  ,o=\"\\ü\",ou=#c3" ⟨0⟩ = .error (.badSyntax 21 (.notUtf8 0)) ∧
      (∃ rules good before after,
        octetsOf "cn=\\é  ,o=\"\\ü\",ou=#c3" = before ++ Octet.hash :: after ∧
        before.length = 20 ∧ Reading.UndecodableHexString rules good (Octet.hash :: after)) ∧
      NoPair (octetsOf "\\é <") ∧
      (∃ value, Utf8.decode
        ([.escaped 0xC3, .plain 0xA9, .plain Octet.space, .plain Octet.less].map Piece.octet) =
          .ok value) ∧
      ∃ stuck, Reading.readPlainValue ⟨.lenient, NameFlags.strictness ⟨0⟩⟩ (octetsOf "\\é <") =
        .error stuck ∧ stuck.fault.code = ResultCode.invalidSyntax := by
  have noPair : NoPair (octetsOf "cn=\\é  ,o=\"\\ü\",ou=#c3") := by decide +kernel
  have failed :
      parseText "cn=\\é  ,o=\"\\ü\",ou=#c3" ⟨0⟩ = .error (.badSyntax 21 (.notUtf8 0)) := by
    decide +kernel
  have noPairThere : NoPair (octetsOf "\\é <") := by decide +kernel
  have plain : Reading.readPlainValue ⟨.lenient, NameFlags.strictness ⟨0⟩⟩ (octetsOf "\\é <") =
      .error ⟨.octetUnescaped Octet.less, [Octet.less]⟩ := by decide +kernel
  have spelled : PiecesSpelling ⟨.lenient, NameFlags.strictness ⟨0⟩⟩ [Octet.quote, Octet.backslash]
      [.escaped 0xC3, .plain 0xA9, .plain Octet.space, .plain Octet.less] (octetsOf "\\é <") := by
    have octets : octetsOf "\\é <" =
        [Octet.backslash, 0xC3] ++ [0xA9, Octet.space, Octet.less] := by decide +kernel
    have noDigit := Octet.hexValue?_eq_none_iff.mp (show Octet.hexValue? 0xC3 = none by decide)
    have lax : ¬(NameFlags.strictness ⟨0⟩).needfulEscapesOnly := by decide
    have free : ∀ octet ∈ [0xA9, Octet.space, Octet.less],
        octet ∉ [Octet.quote, Octet.backslash] := by
      simp [Octet.quote, Octet.backslash, Octet.space, Octet.less]
    rw [octets]
    exact .escape (.escaped 0xC3 noDigit fun needful => absurd needful lax) (.map_plain free)
  obtain ⟨rules, good, before, opening, after, -, same, -, -, behind, offset⟩ :=
    (parseText_undecodable_in_hexString _ noPair).1 _ _ failed rfl
  obtain ⟨-, decodes, syntactic⟩ := parseText_undecodable_in_hexString _ noPairThere
  simp only [NameError.badSyntax.injEq] at offset
  exact ⟨noPair, failed, ⟨rules, good, before, after, same, by omega, behind⟩, noPairThere,
    decodes _ _ _ spelled, _, plain, syntactic _ _ (.inl plain)⟩

end DirectoryName

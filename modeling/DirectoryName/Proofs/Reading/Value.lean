import DirectoryName.Proofs.Reading.Piece

namespace DirectoryName.Reading

/-! Values are read as they are spelled. -/

theorem decodeValue_eq_ok_iff {octets start : List UInt8} {flags : ValueFlags} {value : Value} :
    decodeValue octets flags start = .ok value ↔
      octets = octetsOf value.text ∧ value.flags = flags := by
  unfold decodeValue
  cases decoded : Utf8.decode octets with
  | ok text =>
      have same := Utf8.decode_eq_ok_iff.mp decoded
      constructor
      · intro read
        cases read
        exact ⟨by rw [same, octetsOf_ofList], rfl⟩
      · intro spelled
        obtain ⟨octets, flags⟩ := spelled
        rw [same, ← octetsOf_ofList] at octets
        have text := octetsOf_injective octets
        simp only [text, ← flags]
  | error good =>
      constructor
      · intro read
        cases read
      · intro spelled
        rw [spelled.1, octetsOf, Utf8.decode_encode] at decoded
        cases decoded

theorem decodeValue_eq_error {octets start : List UInt8} {flags : ValueFlags} {stuck : Stuck}
    (read : decodeValue octets flags start = .error stuck) :
    ∃ good, Utf8.decode octets = .error good ∧ stuck = ⟨.notUtf8 good, start⟩ := by
  unfold decodeValue at read
  split at read
  · cases read
  · next good decoded =>
      cases read
      exact ⟨good, decoded, rfl⟩

theorem mem_of_endsValue {dialect : Dialect} {octet : UInt8}
    (ends : dialect.endsValue octet = true) :
    octet ∈ [Octet.comma, Octet.plus, Octet.semicolon, Octet.slash] := by
  cases dialect <;> simp only [Dialect.endsValue, Bool.or_eq_true, beq_iff_eq] at ends <;> grind

/-- What ends a value begins none. -/
theorem not_begins_of_endsValue {dialect : Dialect} {octet : UInt8}
    (ends : dialect.endsValue octet = true) :
    octet ≠ Octet.space ∧ octet ≠ Octet.hash ∧ octet ≠ Octet.quote ∧
      Octet.isKeyOctet octet = false := by
  have delimiter := mem_of_endsValue ends
  simp only [List.mem_cons, List.not_mem_nil, or_false] at delimiter
  rcases delimiter with rfl | rfl | rfl | rfl <;> decide

/-- Padding and the end of a value begin with a space or with an octet that ends it. -/
theorem follows_padding {rules : Rules} {padding rest : List UInt8}
    (padded : Padding rules padding) (follows : Follows (rules.dialect.endsValue · = true) rest) :
    Follows (fun octet => octet = Octet.space ∨ rules.dialect.endsValue octet = true)
      (padding ++ rest) := by
  cases padding with
  | nil => exact follows.mono fun _ => .inr
  | cons first others => exact (follows_cons _ _ _).mpr (.inl (padded.1 first (by simp)))

theorem finishValue_eq_ok_iff {rules : Rules} {text rest : List UInt8} :
    finishValue rules text = .ok rest ↔
      ∃ padding, text = padding ++ rest ∧ Padding rules padding ∧
        Follows (rules.dialect.endsValue · = true) rest := by
  constructor
  · intro finished
    unfold finishValue at finished
    split at finished
    · cases finished
    · next skipped =>
        cases finished
        obtain ⟨padding, same, padded, _⟩ := skipPadding_eq_ok_iff.mp skipped
        exact ⟨padding, same, padded, follows_nil _⟩
    · next next after skipped =>
        split at finished
        · next ends =>
            cases finished
            obtain ⟨padding, same, padded, _⟩ := skipPadding_eq_ok_iff.mp skipped
            exact ⟨padding, same, padded, (follows_cons _ _ _).mpr ends⟩
        · cases finished
  · intro found
    obtain ⟨padding, same, padded, follows⟩ := found
    have skipped : skipPadding rules .spaceAfterValue text = .ok rest :=
      skipPadding_eq_ok_iff.mpr
        ⟨padding, same, padded, fun _ => follows.mono fun _ ends => (not_begins_of_endsValue ends).1⟩
    cases rest with
    | nil => simp only [finishValue, skipped]
    | cons next after =>
        rw [follows_cons] at follows
        simp only [finishValue, skipped, follows, if_true]

theorem hexOctets_sound {digits octets : List UInt8} (even : digits.length % 2 = 0)
    (read : hexOctets digits = .ok octets) : HexSpelling octets digits := by
  fun_induction hexOctets digits generalizing octets with
  | case1 => cases read
  | case2 => cases read
  | case3 high low rest highValue lowValue lowFound highFound more deeper ih =>
      cases read
      exact .cons (Octet.hexValue?_eq_some_iff.mp highFound)
        (Octet.hexValue?_eq_some_iff.mp lowFound)
        (ih (by simp only [List.length_cons] at even; omega) deeper)
  | case4 => cases read
  | case5 digits short =>
      cases read
      match digits with
      | [] => exact .nil
      | [_] => simp at even
      | high :: low :: rest => exact absurd rfl (short high low rest)

theorem hexOctets_append {digits octets : List UInt8} (spelled : HexSpelling octets digits)
    (rest : List UInt8) : hexOctets (digits ++ rest) = (hexOctets rest).map (octets ++ ·) := by
  induction spelled with
  | nil =>
      rw [List.nil_append]
      cases hexOctets rest <;> rfl
  | cons highDigit lowDigit _ ih =>
      simp only [List.cons_append, hexOctets, Octet.hexValue?_eq_some_iff.mpr highDigit,
        Octet.hexValue?_eq_some_iff.mpr lowDigit, ih]
      cases hexOctets rest <;> rfl

theorem hexOctets_complete {digits octets : List UInt8} (spelled : HexSpelling octets digits) :
    hexOctets digits = .ok octets := by
  have read := hexOctets_append spelled []
  rw [List.append_nil] at read
  rw [read]
  simp only [hexOctets, Except.map, List.append_nil]

theorem isHexStringOctet_of_key {dialect : Dialect} {octet : UInt8}
    (key : Octet.isKeyOctet octet = true) : isHexStringOctet dialect octet = true := by
  have space : octet ≠ Octet.space := by
    intro space
    subst space
    exact absurd key (by decide)
  have ends : dialect.endsValue octet = false := by
    rw [← Bool.not_eq_true]
    intro ends
    rw [(not_begins_of_endsValue ends).2.2.2] at key
    cases key
  simp [isHexStringOctet, space, ends]

theorem readHexValue_sound {rules : Rules} {text rest : List UInt8} {value : Value}
    (read : readHexValue rules text = .ok (value, rest)) :
    ∃ used padding, Octet.hash :: text = used ++ (padding ++ rest) ∧
      ValueSpelling rules value used ∧ Padding rules padding ∧
        Follows (rules.dialect.endsValue · = true) rest := by
  unfold readHexValue at read
  split at read
  · cases read
  next some =>
  split at read
  · cases read
  next even =>
  split at read
  · cases read
  next octets digitsRead =>
  split at read
  · cases read
  next finished =>
  split at read
  · next found decoded =>
      cases read
      obtain ⟨padding, same, padded, follows⟩ := finishValue_eq_ok_iff.mp finished
      obtain ⟨spelled, flags⟩ := decodeValue_eq_ok_iff.mp decoded
      obtain ⟨valueText, valueFlags⟩ := value
      cases flags
      rw [spelled] at digitsRead
      refine ⟨_, padding, ?_, .hexString ?_ (hexOctets_sound (by omega) digitsRead), padded,
        follows⟩
      · rw [List.cons_append, ← same, List.takeWhile_append_dropWhile]
      · simpa using some
  · cases read

theorem readHexValue_complete {rules : Rules} {digits padding rest : List UInt8} {text : String}
    (nonempty : digits ≠ []) (spelled : HexSpelling (octetsOf text) digits)
    (padded : Padding rules padding) (follows : Follows (rules.dialect.endsValue · = true) rest) :
    readHexValue rules (digits ++ (padding ++ rest)) = .ok (⟨text, .binary⟩, rest) := by
  have kept : ∀ digit ∈ digits, isHexStringOctet rules.dialect digit = true :=
    fun digit member => isHexStringOctet_of_key (spelled.isKeyOctet digit member)
  have stops : Follows (isHexStringOctet rules.dialect · = false) (padding ++ rest) :=
    (follows_padding padded follows).mono fun octet ends => by
      rcases ends with rfl | ends <;> simp [isHexStringOctet, *]
  have decoded : decodeValue (octetsOf text) .binary (digits ++ (padding ++ rest)) =
      .ok ⟨text, .binary⟩ := decodeValue_eq_ok_iff.mpr ⟨rfl, rfl⟩
  have even := spelled.even
  unfold readHexValue
  rw [takeWhile_of_follows kept stops, dropWhile_of_follows kept stops,
    if_neg (by simpa using nonempty), if_neg (by omega)]
  simp only [hexOctets_complete spelled, decoded,
    finishValue_eq_ok_iff.mpr ⟨padding, rfl, padded, follows⟩]

theorem readQuotedValue_sound {rules : Rules} {text rest : List UInt8} {value : Value}
    (lenient : rules.dialect = .lenient)
    (read : readQuotedValue rules text = .ok (value, rest)) :
    ∃ used padding, Octet.quote :: text = used ++ (padding ++ rest) ∧
      ValueSpelling rules value used ∧ Padding rules padding ∧
        Follows (rules.dialect.endsValue · = true) rest := by
  unfold readQuotedValue at read
  split at read
  · cases read
  next pieces after piecesRead =>
  split at read
  · cases read
  next finished =>
  split at read
  · next found decoded =>
      cases read
      obtain ⟨inner, rfl, spelled⟩ := readQuotedPieces_sound piecesRead
      obtain ⟨padding, rfl, padded, follows⟩ := finishValue_eq_ok_iff.mp finished
      obtain ⟨decodes, flags⟩ := decodeValue_eq_ok_iff.mp decoded
      obtain ⟨valueText, valueFlags⟩ := value
      refine ⟨_, padding, ?_, .quoted lenient spelled decodes (Piece.flagsOf_iff.mpr flags), padded,
        follows⟩
      simp
  · cases read

theorem readQuotedValue_complete {rules : Rules} {inner padding rest : List UInt8}
    {text : String} {flags : ValueFlags} {pieces : List Piece}
    (spelled : PiecesSpelling rules [Octet.quote, Octet.backslash] pieces inner)
    (decodes : pieces.map Piece.octet = octetsOf text) (marked : Piece.FlagsOf pieces flags)
    (padded : Padding rules padding) (follows : Follows (rules.dialect.endsValue · = true) rest) :
    readQuotedValue rules (inner ++ Octet.quote :: (padding ++ rest)) =
      .ok (⟨text, flags⟩, rest) := by
  have decoded : decodeValue (pieces.map Piece.octet) (Piece.flags pieces)
      (inner ++ Octet.quote :: (padding ++ rest)) = .ok ⟨text, flags⟩ :=
    decodeValue_eq_ok_iff.mpr ⟨decodes, Piece.flagsOf_iff.mp marked⟩
  simp only [readQuotedValue, readQuotedPieces_complete spelled, decoded,
    finishValue_eq_ok_iff.mpr ⟨padding, rfl, padded, follows⟩]

theorem readPlainValue_finish_eq_ok_iff {text rest after : List UInt8} {pieces : List Piece}
    {value : Value} :
    readPlainValue.finish text pieces rest = .ok (value, after) ↔
      rest = after ∧ pieces.map Piece.octet = octetsOf value.text ∧
        Piece.FlagsOf pieces value.flags := by
  rw [Piece.flagsOf_iff, ← @decodeValue_eq_ok_iff _ text, readPlainValue.finish]
  cases decodeValue (pieces.map Piece.octet) (Piece.flags pieces) text with
  | ok decoded => simp [and_comm]
  | error stuck => simp

/-- Plain text is read up to the spaces at its end, which are padding. Whether it may
begin as it does is not looked at here. -/
theorem readPlainValue_sound {rules : Rules} {text rest : List UInt8} {value : Value}
    (read : readPlainValue rules text = .ok (value, rest)) :
    ∃ pieces used padding, text = used ++ (padding ++ rest) ∧
      PiecesSpelling rules rules.dialect.reserved pieces used ∧
      (rules.dialect ≠ .dce → pieces.getLast? ≠ some (.plain Octet.space)) ∧
      pieces.map Piece.octet = octetsOf value.text ∧ Piece.FlagsOf pieces value.flags ∧
      Padding rules padding ∧ Follows (rules.dialect.endsValue · = true) rest := by
  unfold readPlainValue at read
  split at read
  · cases read
  next pieces remaining piecesRead =>
  obtain ⟨used, rfl, spelled, follows⟩ := readPlainPieces_sound piecesRead
  split at read
  · split at read
    · cases read
    next spaced lax =>
    obtain ⟨rfl, decodes, marked⟩ := readPlainValue_finish_eq_ok_iff.mp read
    obtain ⟨before, rfl, beforeSpelled⟩ := spelled.beforeFinalSpaces
    refine ⟨_, before, _, List.append_assoc _ _ _, beforeSpelled,
      fun _ => Piece.getLast?_beforeFinalSpaces pieces, decodes, marked, ⟨?_, ?_⟩, follows⟩
    · rw [Piece.map_octet_finalSpaces]
      exact fun _ => List.eq_of_mem_replicate
    · intro bare
      cases bare with
      | inl dce => simp [Dialect.padsWithSpaces, dce] at spaced
      | inr strict => exact absurd strict lax
  · next bare =>
      obtain ⟨rfl, decodes, marked⟩ := readPlainValue_finish_eq_ok_iff.mp read
      refine ⟨pieces, used, [], rfl, spelled, ?_, decodes, marked, padding_nil rules, follows⟩
      intro ldap last
      simp [Dialect.padsWithSpaces, ldap, Piece.finalSpaces_ne_nil last] at bare

theorem readPlainValue_complete {rules : Rules} {used padding rest : List UInt8} {value : Value}
    {pieces : List Piece}
    (spelled : PiecesSpelling rules rules.dialect.reserved pieces used)
    (noFinalSpace : rules.dialect ≠ .dce → pieces.getLast? ≠ some (.plain Octet.space))
    (decodes : pieces.map Piece.octet = octetsOf value.text)
    (marked : Piece.FlagsOf pieces value.flags) (padded : Padding rules padding)
    (follows : Follows (rules.dialect.endsValue · = true) rest) :
    readPlainValue rules (used ++ (padding ++ rest)) = .ok (value, rest) := by
  have finish : ∀ text, readPlainValue.finish text pieces rest = .ok (value, rest) :=
    fun _ => readPlainValue_finish_eq_ok_iff.mpr ⟨rfl, decodes, marked⟩
  unfold readPlainValue
  by_cases dce : rules.dialect = .dce
  · rw [padded.2 (.inl dce), List.nil_append, readPlainPieces_complete spelled follows]
    simp [Dialect.padsWithSpaces, dce, finish]
  · have spaces : padding = List.replicate padding.length Octet.space :=
      List.eq_replicate_iff.mpr ⟨rfl, padded.1⟩
    have free : ∀ octet ∈ padding, octet ∉ rules.dialect.reserved := by
      intro octet member
      rw [padded.1 octet member]
      cases rules.dialect <;> decide
    have read := readPlainPieces_complete (spelled.append (.map_plain free)) follows
    rw [List.append_assoc] at read
    rw [read]
    obtain ⟨final, before⟩ := Piece.finalSpaces_append padding.length (noFinalSpace dce)
    rw [← spaces] at final before
    simp only [final, before]
    split
    · next spaced =>
        rw [if_neg]
        · exact finish _
        · intro strict
          rw [padded.2 (.inr strict)] at spaced
          simp at spaced
    · next bare =>
        have none : padding = [] := by
          simpa [Dialect.padsWithSpaces, dce] using bare
        subst none
        rw [List.map_nil, List.append_nil]
        exact finish _

theorem readValue_sound {rules : Rules} {text rest : List UInt8} {value : Value}
    (noSpace : rules.dialect ≠ .dce → Follows (· ≠ Octet.space) text)
    (read : readValue rules text = .ok (value, rest)) :
    ∃ used padding, text = used ++ (padding ++ rest) ∧ ValueSpelling rules value used ∧
      Padding rules padding ∧ Follows (rules.dialect.endsValue · = true) rest := by
  have plain : Follows (· ≠ Octet.hash) text → readPlainValue rules text = .ok (value, rest) →
      ∃ used padding, text = used ++ (padding ++ rest) ∧ ValueSpelling rules value used ∧
        Padding rules padding ∧ Follows (rules.dialect.endsValue · = true) rest := by
    intro noHash read
    obtain ⟨pieces, used, padding, same, spelled, noFinalSpace, decodes, marked, padded,
      follows⟩ := readPlainValue_sound read
    have begins : ∀ octet, pieces.head? = some (.plain octet) → text.head? = some octet := by
      intro octet head
      rw [same, List.head?_append, spelled.head?_of_plain head]
      rfl
    refine ⟨used, padding, same, .plain spelled ?_ ?_ decodes marked, padded, follows⟩
    · exact fun head => noHash _ (begins _ head) rfl
    · exact fun ldap => ⟨fun head => noSpace ldap _ (begins _ head) rfl, noFinalSpace ldap⟩
  unfold readValue at read
  split at read
  · exact plain (follows_nil _) read
  next first after =>
  split at read
  · next hash =>
      rw [hash]
      exact readHexValue_sound read
  next noHash =>
  split at read
  · next quote =>
      split at read
      · next lenient =>
          rw [quote]
          exact readQuotedValue_sound lenient read
      · cases read
      · exact plain ((follows_cons _ _ _).mpr noHash) read
  · exact plain ((follows_cons _ _ _).mpr noHash) read

theorem readValue_eq_plain {rules : Rules} {text : List UInt8}
    (noHash : Follows (· ≠ Octet.hash) text)
    (noQuote : rules.dialect ≠ .dce → Follows (· ≠ Octet.quote) text) :
    readValue rules text = readPlainValue rules text := by
  cases text with
  | nil => rfl
  | cons first after =>
      rw [follows_cons] at noHash
      simp only [follows_cons] at noQuote
      simp only [readValue, if_neg noHash]
      split
      · next quote =>
          split
          · next lenient => exact absurd quote (noQuote (by simp [lenient]))
          · next strict => exact absurd quote (noQuote (by simp [strict]))
          · rfl
      · rfl

/-- A plain value and what stands after it begin neither as a hexadecimal string nor, where
quotes are special, as a quoted one. -/
theorem not_begins_of_plain {rules : Rules} {pieces : List Piece} {used padding rest : List UInt8}
    (spelled : PiecesSpelling rules rules.dialect.reserved pieces used)
    (noHash : pieces.head? ≠ some (.plain Octet.hash)) (padded : Padding rules padding)
    (follows : Follows (rules.dialect.endsValue · = true) rest) :
    Follows (fun octet => octet ≠ Octet.hash ∧ (rules.dialect ≠ .dce → octet ≠ Octet.quote))
      (used ++ (padding ++ rest)) := by
  cases pieces with
  | nil =>
      cases spelled
      refine (follows_padding padded follows).mono fun octet begins => ?_
      rcases begins with rfl | ends
      · exact ⟨by decide, fun _ => by decide⟩
      · have delimiter := not_begins_of_endsValue ends
        exact ⟨delimiter.2.1, fun _ => delimiter.2.2.1⟩
  | cons piece pieces =>
      intro octet member
      rcases spelled.head with ⟨begin, rfl, free, head⟩ | ⟨_, head⟩
      · rw [List.head?_append, head] at member
        cases member
        constructor
        · intro hash
          subst hash
          exact noHash rfl
        · intro ldap quote
          subst quote
          apply free
          cases dialect : rules.dialect with
          | lenient | strictV3 => decide
          | dce => exact absurd dialect ldap
      · rw [List.head?_append, head] at member
        cases member
        exact ⟨by decide, fun _ => by decide⟩

theorem readValue_complete {rules : Rules} {used padding rest : List UInt8} {value : Value}
    (spelled : ValueSpelling rules value used) (padded : Padding rules padding)
    (follows : Follows (rules.dialect.endsValue · = true) rest) :
    readValue rules (used ++ (padding ++ rest)) = .ok (value, rest) := by
  cases spelled with
  | hexString nonempty spelled =>
      rw [List.cons_append, readValue, if_pos rfl]
      exact readHexValue_complete nonempty spelled padded follows
  | quoted lenient spelled decodes marked =>
      have read := readQuotedValue_complete spelled decodes marked padded follows
      rw [List.cons_append, List.cons_append, List.append_assoc, List.singleton_append, readValue,
        if_neg (by decide), if_pos rfl]
      simp only [lenient, read]
  | @plain text flags pieces spelling spelled noHash noEdgeSpaces decodes marked =>
      have begins := not_begins_of_plain spelled noHash padded follows
      rw [readValue_eq_plain (begins.mono fun _ other => other.1)
        fun ldap => begins.mono fun _ other => other.2 ldap]
      exact readPlainValue_complete spelled (fun ldap => (noEdgeSpaces ldap).2) decodes marked
        padded follows

end DirectoryName.Reading

import DirectoryName.Proofs.Beginning

namespace DirectoryName

/-! Reading on behind the point where a text breaks off.

Whatever is written there, the readers come to the same value with the same octets before the
cut. So if they succeed, those octets are the beginning of some UTF-8. -/

theorem HexDigit.below {digit value : UInt8} (isDigit : HexDigit digit value) : value < 16 := by
  cases isDigit with
  | decimal _ below => exact UInt8.lt_trans below (by decide)
  | lower _ _ below | upper _ _ below => exact below

theorem HexDigit.unique {digit first second : UInt8} (firstDigit : HexDigit digit first)
    (secondDigit : HexDigit digit second) : first = second := by
  rw [← Octet.hexValue?_eq_some_iff] at firstDigit secondDigit
  rw [firstDigit, Option.some.injEq] at secondDigit
  exact secondDigit

namespace Reading

variable {rules : Rules} {octets text more rest : List UInt8} {cut : Cut}

/-- Behind a first digit only the second one is read. -/
theorem octet_of_readEscape {high value : UInt8} {piece : Piece} (digit : HexDigit high value)
    (read : readEscape rules (high :: more) = .ok (piece, rest)) :
    ∃ low, low < 16 ∧ piece.octet = value * 16 + low := by
  obtain ⟨escape, same, spelled⟩ := readEscape_eq_ok_iff.mp read
  cases spelled with
  | escaped octet noDigit _ =>
      simp only [List.cons_append, List.nil_append, List.cons.injEq, true_and] at same
      rw [← same.1] at noDigit
      exact absurd digit (noDigit value)
  | pair highDigit lowDigit =>
      simp only [List.cons_append, List.nil_append, List.cons.injEq, true_and] at same
      rw [← same.1] at highDigit
      rw [digit.unique highDigit]
      exact ⟨_, lowDigit.below, rfl⟩

end Reading

open Reading

variable {rules : Rules} {octets text more rest : List UInt8} {cut : Cut}

theorem HexBeginning.allows {digits whole : List UInt8} (begun : HexBeginning octets cut digits)
    (even : (digits ++ rest).length % 2 = 0) (read : hexOctets (digits ++ rest) = .ok whole) :
    cut.Allows octets whole := by
  cases begun with
  | between spelled =>
      rw [hexOctets_append spelled] at read
      cases restRead : hexOctets rest with
      | error wrong => rw [restRead] at read; cases read
      | ok later =>
          rw [restRead] at read
          cases read
          exact List.prefix_append octets later
  | @within digits high value spelled digit =>
      rw [List.append_assoc] at read even
      rw [hexOctets_append spelled] at read
      have digitsEven := spelled.even
      have highFound := Octet.hexValue?_eq_some_iff.mpr digit
      match rest with
      | [] =>
          rw [List.length_append, List.append_nil, List.length_singleton] at even
          omega
      | low :: after =>
          rw [List.singleton_append, hexOctets, highFound] at read
          cases lowFound : Octet.hexValue? low with
          | none => rw [lowFound] at read; cases read
          | some lowValue =>
              rw [lowFound] at read
              cases later : hexOctets after with
              | error wrong => rw [later] at read; cases read
              | ok others =>
                  rw [later] at read
                  cases read
                  refine ⟨lowValue, (Octet.hexValue?_eq_some_iff.mp lowFound).below, others, ?_⟩
                  rw [List.append_assoc]
                  rfl

/-- What two readers of pieces have in common: pieces are passed over, whatever stands behind
them, and a backslash begins an escape. -/
theorem PiecesBeginning.allows {reserved : List UInt8} {pieces : List Piece}
    {read : List UInt8 → Except Stuck (List Piece × List UInt8)}
    (passes : ∀ {pieces used}, PiecesSpelling rules reserved pieces used →
      ∀ rest, read (used ++ rest) = (read rest).map fun result => (pieces ++ result.1, result.2))
    (escapes : ∀ after, read (Octet.backslash :: after) = do
      let (piece, remaining) ← readEscape rules after
      let (pieces, rest) ← read remaining
      return (piece :: pieces, rest))
    (begun : PiecesBeginning rules reserved octets cut text)
    (done : read (text ++ more) = .ok (pieces, rest)) :
    cut.Allows octets (pieces.map Piece.octet) := by
  cases begun with
  | @between before text spelled =>
      rw [passes spelled] at done
      cases later : read more with
      | error stuck => rw [later] at done; cases done
      | ok result =>
          rw [later] at done
          cases done
          rw [List.map_append]
          exact List.prefix_append _ _
  | @within before text high value spelled digit =>
      rw [List.append_assoc, passes spelled] at done
      cases later : read ([Octet.backslash, high] ++ more) with
      | error stuck => rw [later] at done; cases done
      | ok result =>
          rw [later] at done
          cases done
          simp only [List.cons_append, List.nil_append, escapes, bind_eq_ok_iff, Prod.exists]
            at later
          obtain ⟨piece, remaining, escape, others, _, _, returned⟩ := later
          cases returned
          obtain ⟨low, below, octet⟩ := octet_of_readEscape digit escape
          refine ⟨low, below, ?_⟩
          rw [← octet, List.map_append, List.map_cons]
          exact (List.prefix_append_right_inj _).mpr (List.prefix_append [_] _)


namespace Reading

theorem hexOctets_of_readHexValue {value : Value}
    (read : readHexValue rules text = .ok (value, rest)) :
    (text.takeWhile (isHexStringOctet rules.dialect)).length % 2 = 0 ∧
      hexOctets (text.takeWhile (isHexStringOctet rules.dialect)) = .ok (octetsOf value.text) := by
  unfold readHexValue at read
  split at read
  · cases read
  split at read
  · cases read
  next even =>
  split at read
  · cases read
  next octets digitsRead =>
  split at read
  · cases read
  split at read
  · next decoded =>
      cases read
      rw [digitsRead, (decodeValue_eq_ok_iff.mp decoded).1]
      exact ⟨by omega, rfl⟩
  · cases read

theorem pieces_of_readQuotedValue {value : Value}
    (read : readQuotedValue rules text = .ok (value, rest)) :
    ∃ pieces after, readQuotedPieces rules (Octet.quote :: text) text = .ok (pieces, after) ∧
      pieces.map Piece.octet = octetsOf value.text := by
  unfold readQuotedValue at read
  split at read
  · cases read
  next pieces after piecesRead =>
  split at read
  · cases read
  split at read
  · next decoded =>
      cases read
      exact ⟨pieces, after, piecesRead, (decodeValue_eq_ok_iff.mp decoded).1⟩
  · cases read

/-- With the spaces at its end, which are dropped, a plain value is still UTF-8. -/
theorem pieces_of_readPlainValue {value : Value}
    (read : readPlainValue rules text = .ok (value, rest)) :
    ∃ pieces whole, readPlainPieces rules text = .ok (pieces, rest) ∧
      pieces.map Piece.octet = octetsOf whole := by
  unfold readPlainValue at read
  split at read
  · cases read
  next pieces remaining piecesRead =>
  split at read
  · split at read
    · cases read
    obtain ⟨rfl, decodes, _⟩ := readPlainValue_finish_eq_ok_iff.mp read
    have ascii : ∀ octet ∈ (Piece.finalSpaces pieces).map Piece.octet, octet.toNat < 0x80 := by
      rw [Piece.map_octet_finalSpaces]
      intro octet member
      rw [List.eq_of_mem_replicate member]
      decide
    refine ⟨pieces, value.text ++ Octet.textOf ((Piece.finalSpaces pieces).map Piece.octet),
      piecesRead, ?_⟩
    have all := congrArg (List.map Piece.octet) (Piece.beforeFinalSpaces_append pieces)
    rw [List.map_append, List.map_reverse, Piece.map_octet_finalSpaces, List.reverse_replicate]
      at all
    rw [octetsOf_append, ← decodes, Octet.octetsOf_textOf ascii, Piece.map_octet_finalSpaces]
    exact all.symm
  · obtain ⟨rfl, decodes, _⟩ := readPlainValue_finish_eq_ok_iff.mp read
    exact ⟨pieces, _, piecesRead, decodes⟩

end Reading

theorem PiecesBeginning.head_ne {reserved : List UInt8} {octet : UInt8}
    (begun : PiecesBeginning rules reserved octets cut text) (taken : octet ∈ reserved)
    (other : octet ≠ Octet.backslash) : text.head? ≠ some octet := by
  have whole {pieces : List Piece} {text : List UInt8}
      (spelled : PiecesSpelling rules reserved pieces text) : text.head? ≠ some octet := by
    cases pieces with
    | nil =>
        cases spelled
        simp
    | cons piece pieces =>
        rcases spelled.head with ⟨first, _, free, head⟩ | ⟨_, head⟩
        · rw [head, ne_eq, Option.some.injEq]
          rintro rfl
          exact free taken
        · rw [head, ne_eq, Option.some.injEq]
          exact other.symm
  cases begun with
  | between spelled => exact whole spelled
  | @within pieces text high value spelled digit =>
      cases text with
      | nil =>
          rw [List.nil_append, List.head?_cons, ne_eq, Option.some.injEq]
          exact other.symm
      | cons first others => exact fun head => whole spelled head

theorem PiecesBeginning.of_nil {reserved : List UInt8}
    (begun : PiecesBeginning rules reserved octets cut text) (empty : text = []) :
    octets = [] ∧ cut = .between := by
  cases begun with
  | @between pieces text spelled =>
      cases pieces with
      | nil => exact ⟨rfl, rfl⟩
      | cons piece pieces =>
          subst empty
          rcases spelled.head with ⟨_, _, _, head⟩ | ⟨_, head⟩ <;> cases head
  | within _ _ => simp at empty

theorem HexBeginning.isKeyOctet {digits : List UInt8} (begun : HexBeginning octets cut digits) :
    ∀ digit ∈ digits, Octet.isKeyOctet digit = true := by
  cases begun with
  | between spelled => exact spelled.isKeyOctet
  | within spelled digit =>
      exact List.forall_mem_append.mpr ⟨spelled.isKeyOctet,
        List.forall_mem_singleton.mpr (Octet.HexDigit.isKeyOctet digit)⟩

theorem ValueBeginning.allows {value : Value} (begun : ValueBeginning rules octets cut text)
    (read : readValue rules (text ++ more) = .ok (value, rest)) :
    ∃ whole : String, cut.Allows octets (octetsOf whole) := by
  cases begun with
  | @hexString octets digits cut begun =>
      rw [List.cons_append, readValue, if_pos rfl] at read
      obtain ⟨even, digitsRead⟩ := hexOctets_of_readHexValue read
      have keys : ∀ digit ∈ digits, isHexStringOctet rules.dialect digit = true :=
        fun digit member => isHexStringOctet_of_key (begun.isKeyOctet digit member)
      rw [List.takeWhile_append_of_pos keys] at even digitsRead
      exact ⟨_, begun.allows even digitsRead⟩
  | @hexStringEnd octets digits padding nonempty spelled some padded =>
      rw [List.cons_append, readValue, if_pos rfl, List.append_assoc] at read
      obtain ⟨_, digitsRead⟩ := hexOctets_of_readHexValue read
      have keys : ∀ digit ∈ digits, isHexStringOctet rules.dialect digit = true :=
        fun digit member => isHexStringOctet_of_key (spelled.isKeyOctet digit member)
      have stops : Follows (isHexStringOctet rules.dialect · = false) (padding ++ more) := by
        obtain ⟨first, others, rfl⟩ := List.exists_cons_of_ne_nil some
        rw [List.cons_append, follows_cons, padded.1 first List.mem_cons_self]
        rfl
      rw [takeWhile_of_follows keys stops, hexOctets_complete spelled] at digitsRead
      cases digitsRead
      exact ⟨_, rfl⟩
  | @quoted octets inner cut lenient begun =>
      rw [List.cons_append, readValue, if_neg (by decide), if_pos rfl] at read
      simp only [lenient] at read
      obtain ⟨pieces, after, piecesRead, decodes⟩ := pieces_of_readQuotedValue read
      have allowed := begun.allows readQuotedPieces_append (fun after => by
        rw [readQuotedPieces_cons, if_neg (by decide), if_pos rfl]) piecesRead
      rw [decodes] at allowed
      exact ⟨_, allowed⟩
  | @quotedEnd pieces inner padding lenient spelled padded =>
      rw [List.cons_append, readValue, if_neg (by decide), if_pos rfl] at read
      simp only [lenient] at read
      obtain ⟨found, after, piecesRead, decodes⟩ := pieces_of_readQuotedValue read
      rw [List.append_assoc, List.cons_append, readQuotedPieces_complete spelled] at piecesRead
      cases piecesRead
      exact ⟨_, decodes⟩
  | plain begun noHash noSpace =>
      cases text with
      | nil =>
          obtain ⟨rfl, rfl⟩ := begun.of_nil rfl
          exact ⟨"", List.nil_prefix⟩
      | cons first others =>
          have hash : Follows (· ≠ Octet.hash) (first :: others ++ more) := by
            simpa using noHash
          have quote : rules.dialect ≠ .dce → Follows (· ≠ Octet.quote) (first :: others ++ more) := by
            intro ldap
            have taken : Octet.quote ∈ rules.dialect.reserved := by
              cases dialect : rules.dialect with
              | lenient | strictV3 => decide
              | dce => exact absurd dialect ldap
            simpa using begun.head_ne taken (by decide)
          rw [readValue_eq_plain hash quote] at read
          obtain ⟨pieces, whole, piecesRead, decodes⟩ := pieces_of_readPlainValue read
          have allowed := begun.allows readPlainPieces_append (fun after => by
            have ends : rules.dialect.endsValue Octet.backslash = false := by
              cases rules.dialect <;> decide
            rw [readPlainPieces_cons, if_neg (by simp [ends]), if_pos rfl]) piecesRead
          rw [decodes] at allowed
          exact ⟨whole, allowed⟩

theorem ValueBeginning.of_nil (begun : ValueBeginning rules octets cut []) :
    octets = [] ∧ cut = .between := by
  cases begun with
  | plain begun _ _ => exact begun.of_nil rfl

theorem ValueBeginning.no_space (begun : ValueBeginning rules octets cut text)
    (ldap : rules.dialect ≠ .dce) : text.head? ≠ some Octet.space := by
  cases begun with
  | hexString _ | hexStringEnd _ _ _ _ => simp [Octet.hash, Octet.space]
  | quoted _ _ | quotedEnd _ _ _ => simp [Octet.quote, Octet.space]
  | plain _ _ noSpace => exact noSpace ldap

/-- Behind an opening a value is read. -/
theorem AvaOpening.readValue {opening : List UInt8} {ava : Ava} (opened : AvaOpening rules opening)
    (noSpace : rules.dialect ≠ .dce → Follows (· ≠ Octet.space) text)
    (read : readAva rules (opening ++ text) = .ok (ava, rest)) :
    ∃ value, Reading.readValue rules text = .ok (value, rest) := by
  obtain ⟨typePadded, typed, equalsPadded, valuePadded⟩ := opened
  rw [List.append_assoc, List.cons_append,
    readAva_opening typePadded typed equalsPadded valuePadded noSpace, bind_eq_ok_iff] at read
  obtain ⟨⟨value, after⟩, valueRead, returned⟩ := read
  cases returned
  exact ⟨value, valueRead⟩

theorem AvaOpening.allows {opening value : List UInt8} {ava : Ava}
    (opened : AvaOpening rules opening) (begun : ValueBeginning rules octets cut value)
    (read : readAva rules (opening ++ value ++ more) = .ok (ava, rest)) :
    ∃ whole : String, cut.Allows octets (octetsOf whole) := by
  by_cases empty : value = []
  · subst empty
    obtain ⟨rfl, rfl⟩ := begun.of_nil
    exact ⟨"", List.nil_prefix⟩
  · have noSpace : rules.dialect ≠ .dce → Follows (· ≠ Octet.space) (value ++ more) := by
      intro ldap
      obtain ⟨first, others, rfl⟩ := List.exists_cons_of_ne_nil empty
      simpa using begun.no_space ldap
    rw [List.append_assoc] at read
    obtain ⟨found, valueRead⟩ := opened.readValue noSpace read
    exact begun.allows valueRead

variable {last : List UInt8}

theorem RdnBreak.read {rdn : Rdn} (broken : RdnBreak rules last text)
    (read : readAvas rules (text ++ more) = .ok (rdn, rest)) :
    ∃ ava rest, readAva rules (last ++ more) = .ok (ava, rest) := by
  induction broken generalizing rdn with
  | here =>
      rw [readAvas_bind, bind_eq_ok_iff] at read
      obtain ⟨⟨ava, rest⟩, avaRead, _⟩ := read
      exact ⟨ava, rest, avaRead⟩
  | @more ava first later spelled _ ih =>
      have joins := (Dialect.joinsAvas_iff rules.dialect _).mpr rfl
      rw [List.append_assoc, List.cons_append, readAvas_bind, readAva_complete spelled
        ((follows_cons _ _ _).mpr (Dialect.endsValue_joint _))] at read
      simp only [bind, Except.bind, joins, if_true] at read
      cases deeper : readAvas rules (later ++ more) with
      | error stuck => rw [deeper] at read; cases read
      | ok result =>
          rw [deeper] at read
          cases read
          exact ih deeper

theorem RdnsBreak.read {rdns : List Rdn} (ldap : rules.dialect ≠ .dce)
    (broken : RdnsBreak rules last text) (read : readRdns rules (text ++ more) = .ok rdns) :
    ∃ ava rest, readAva rules (last ++ more) = .ok (ava, rest) := by
  induction broken generalizing rdns with
  | here broken =>
      rw [readRdns_bind, bind_eq_ok_iff] at read
      obtain ⟨⟨rdn, rest⟩, rdnRead, _⟩ := read
      exact broken.read rdnRead
  | @more rdn first later separator spelled separates noSpace _ ih =>
      have separates := (Dialect.separatesRdns_iff ldap _).mpr separates
      have ends := (Dialect.endsRdn_iff_separates ldap _).mpr separates
      rw [List.append_assoc, List.cons_append, readRdns_bind,
        readAvas_complete spelled ((follows_cons _ _ _).mpr ends)] at read
      simp only [bind, Except.bind, separates, if_true] at read
      split at read
      · cases read
      · cases deeper : readRdns rules (later ++ more) with
        | error stuck => rw [deeper] at read; cases read
        | ok others => exact ih deeper

theorem PathBreak.begins (broken : PathBreak rules last text) (more : List UInt8) :
    Follows (· = Octet.slash) (text ++ more) := by
  cases broken with
  | here _ | more _ _ => exact (follows_cons _ _ _).mpr rfl

theorem PathBreak.read {rdns : List Rdn} (dce : rules.dialect = .dce)
    (broken : PathBreak rules last text) (read : readPath rules (text ++ more) = .ok rdns) :
    ∃ ava rest, readAva rules (last ++ more) = .ok (ava, rest) := by
  induction broken generalizing rdns with
  | here broken =>
      rw [List.cons_append, readPath_cons, if_pos rfl, bind_eq_ok_iff] at read
      obtain ⟨⟨rdn, rest⟩, rdnRead, _⟩ := read
      exact broken.read rdnRead
  | @more rdn first later spelled others ih =>
      have ends : Follows rules.dialect.endsRdn (later ++ more) := by
        rw [dce]
        exact (others.begins more).mono fun octet => (Dialect.endsRdn_dce octet).mpr
      rw [List.cons_append, List.append_assoc, readPath_cons, if_pos rfl,
        readAvas_complete spelled ends] at read
      simp only [bind, Except.bind] at read
      cases deeper : readPath rules (later ++ more) with
      | error stuck => rw [deeper] at read; cases read
      | ok others => exact ih deeper

theorem NameBreak.read {name : Dn} (broken : NameBreak rules last text)
    (content : Octet.equals ∈ last) (read : readName rules (text ++ more) = .ok name) :
    ∃ ava rest, readAva rules (last ++ more) = .ok (ava, rest) := by
  by_cases dce : rules.dialect = .dce
  · rw [nameBreak_dce dce] at broken
    rw [readName_dce_iff dce] at read
    exact broken.read dce (readPath_complete dce read)
  · rw [nameBreak_ldap dce] at broken
    rw [readName_ldap_iff dce] at read
    cases read with
    | root spaces _ =>
        exact absurd (spaces _ (List.mem_append_left _ (broken.suffix.mem content))) (by decide)
    | rdns spelled => exact broken.read dce (readRdns_complete dce spelled)

/-- After octets that are not the beginning of any UTF-8 nothing helps. -/
theorem Spoilt.not_read {name : Dn} (spoilt : Spoilt rules text) :
    readName rules (text ++ more) ≠ .ok name := by
  obtain ⟨opening, value, octets, cut, opened, begun, broken, hopeless⟩ := spoilt
  intro read
  have content : Octet.equals ∈ opening ++ value := by
    cases opened
    simp
  obtain ⟨ava, rest, avaRead⟩ := broken.read content read
  obtain ⟨whole, allowed⟩ := opened.allows begun avaRead
  exact hopeless whole allowed

theorem HexSpelling.exists_hexDigit {digits : List UInt8} (spelled : HexSpelling octets digits) :
    ∀ digit ∈ digits, ∃ value, HexDigit digit value := by
  induction spelled with
  | nil => simp
  | cons highDigit lowDigit _ ih =>
      simp only [List.forall_mem_cons]
      exact ⟨⟨_, highDigit⟩, ⟨_, lowDigit⟩, ih⟩

/-- After a wrong digit of a hexadecimal string nothing helps either. -/
theorem not_read_of_wrongDigit {opening value : List UInt8} {name : Dn}
    (opened : AvaOpening rules opening) (broken : NameBreak rules (opening ++ value) text)
    (wrong : HasWrongDigit rules.dialect value) : readName rules (text ++ more) ≠ .ok name := by
  obtain ⟨digits, rfl, -, within, digit, member, wrong⟩ := wrong
  intro read
  have content : Octet.equals ∈ opening ++ Octet.hash :: digits := by
    cases opened
    simp
  obtain ⟨ava, rest, avaRead⟩ := broken.read content read
  rw [List.append_assoc, List.cons_append] at avaRead
  obtain ⟨value, valueRead⟩ :=
    opened.readValue (fun _ => (follows_cons _ _ _).mpr (by decide)) avaRead
  rw [readValue, if_pos rfl] at valueRead
  obtain ⟨even, digitsRead⟩ := hexOctets_of_readHexValue valueRead
  obtain ⟨digitValue, isDigit⟩ := (hexOctets_sound even digitsRead).exists_hexDigit digit (by
    rw [List.takeWhile_append_of_pos within]
    exact List.mem_append_left _ member)
  exact wrong digitValue isDigit

end DirectoryName

import DirectoryName.Proofs.Beginning

namespace DirectoryName

/-! Where the readers get stuck.

Up to the octet at which a reader stops with a syntax fault, it has passed over the beginning
of what it reads. -/

namespace Reading

theorem skipPadding_stuck {rules : Rules} {fault : SyntaxFault} {text : List UInt8}
    {stuck : Stuck} (read : skipPadding rules fault text = .error stuck) : stuck.rest = text := by
  unfold skipPadding at read
  split at read
  · split at read
    · cases read
      rfl
    · cases read
  · cases read

/-! Types. -/

/-- Runs of digits that another run still has to follow. -/
theorem readArcs_stuck {text : List UInt8} {stuck : Stuck}
    (read : readArcs text = .error stuck) :
    ∃ arcs, text = arcs.flatMap (· ++ [Octet.dot]) ++ stuck.rest ∧ AreArcs arcs := by
  fun_induction readArcs text with
  | case1 =>
      cases read
      exact ⟨[], rfl, by simp [AreArcs]⟩
  | case2 => cases read
  | case3 => cases read
  | case4 text some after stopped deeper found ih =>
      cases read
      obtain ⟨arcs, same, are⟩ := ih deeper
      refine ⟨text.takeWhile Octet.isDigit :: arcs, ?_, areArcs_cons.mpr ⟨⟨?_, ?_⟩, are⟩⟩
      · rw [List.flatMap_cons, List.append_assoc, List.append_assoc, ← same]
        exact List.takeWhile_append_dropWhile.symm.trans (congrArg _ found)
      · intro none
        exact some (by rw [none]; rfl)
      · exact fun _ => List.mem_takeWhile_imp
  | case5 => cases read

/-- Two more runs make a number of any runs. -/
theorem isDottedNumber_completed {arcs : List (List UInt8)} (are : AreArcs arcs) :
    IsDottedNumber (arcs.flatMap (· ++ [Octet.dot]) ++ octetsOf "1.2") := by
  refine ⟨arcs ++ [octetsOf "1", octetsOf "2"], ?_, by simp, ?_⟩
  · induction arcs with
    | nil => decide
    | cons arc arcs ih =>
        rw [List.cons_append, List.intercalate_cons_of_ne_nil (by simp),
          ← ih (areArcs_cons.mp are).2, List.flatMap_cons]
        simp only [List.append_assoc]
  · have one : octetsOf "1" = [0x31] := by decide
    have two : octetsOf "2" = [0x32] := by decide
    exact List.forall_mem_append.mpr ⟨are, by simp [one, two, Octet.isDigit]⟩

theorem readBareType_stuck {text : List UInt8} {stuck : Stuck}
    (read : readBareType text = .error stuck) :
    ∃ used, text = used ++ stuck.rest ∧ IsDottedNumber (used ++ octetsOf "1.2") := by
  have nothing : IsDottedNumber ([] ++ octetsOf "1.2") :=
    @isDottedNumber_completed [] (by simp [AreArcs])
  unfold readBareType at read
  split at read
  · cases read
    exact ⟨[], rfl, nothing⟩
  split at read
  · cases read
  split at read
  · split at read
    · split at read
      · cases read
        exact ⟨[], rfl, nothing⟩
      · cases read
    · next arcsRead =>
        cases read
        obtain ⟨arcs, same, are⟩ := readArcs_stuck arcsRead
        exact ⟨_, same, isDottedNumber_completed are⟩
  · cases read
    exact ⟨[], rfl, nothing⟩

theorem readType_stuck {dialect : Dialect} {text : List UInt8} {stuck : Stuck}
    (read : readType dialect text = .error stuck) :
    ∃ used type, text = used ++ stuck.rest ∧
      TypeSpelling dialect type (used ++ octetsOf "1.2") := by
  obtain ⟨used, same, number⟩ := readBareType_stuck read
  have typed := Octet.octetsOf_textOf number.ascii
  rw [← typed] at number
  rcases dropOidWord_sound dialect text with whole | ⟨word, digit, after, whole, lenient, oid, _,
    dropped⟩
  · have spelled := @TypeSpelling.number dialect _ number
    rw [typed] at spelled
    exact ⟨used, _, whole.symm.trans same, spelled⟩
  · have spelled := TypeSpelling.oid lenient oid number
    rw [typed, ← List.append_assoc] at spelled
    exact ⟨word ++ used, _, by rw [whole, List.append_assoc, ← same, dropped], spelled⟩

/-! Values. -/

theorem readEscape_stuck {rules : Rules} {text : List UInt8} {stuck : Stuck}
    (read : readEscape rules text = .error stuck) :
    stuck.rest = Octet.backslash :: text ∨
      ∃ high value, text = high :: stuck.rest ∧ HexDigit high value := by
  unfold readEscape at read
  split at read
  · cases read
    exact .inl rfl
  split at read
  · next found =>
      have digit := Octet.hexValue?_eq_some_iff.mp found
      split at read
      · cases read
        exact .inr ⟨_, _, rfl, digit⟩
      · split at read
        · cases read
        · cases read
          exact .inr ⟨_, _, rfl, digit⟩
  · split at read
    · cases read
      exact .inl rfl
    · cases read

end Reading

namespace PiecesBeginning

variable {rules : Rules} {reserved octets text : List UInt8} {cut : Cut}

theorem nil : PiecesBeginning rules reserved [] .between [] :=
  .between .nil

theorem plain {octet : UInt8} (free : octet ∉ reserved)
    (begun : PiecesBeginning rules reserved octets cut text) :
    PiecesBeginning rules reserved (octet :: octets) cut (octet :: text) := by
  cases begun with
  | between spelled => exact .between (.plain free spelled)
  | within spelled digit => exact .within (.plain free spelled) digit

theorem escape {piece : Piece} {escape : List UInt8} (first : EscapeSpelling rules piece escape)
    (begun : PiecesBeginning rules reserved octets cut text) :
    PiecesBeginning rules reserved (piece.octet :: octets) cut (escape ++ text) := by
  cases begun with
  | between spelled => exact .between (.escape first spelled)
  | within spelled digit =>
      rw [← List.append_assoc]
      exact .within (.escape first spelled) digit

/-- An escape that cannot be read leaves its backslash, or is a pair cut in two. -/
theorem of_readEscape {after : List UInt8} {stuck : Stuck}
    (read : Reading.readEscape rules after = .error stuck) :
    ∃ octets cut used, Octet.backslash :: after = used ++ stuck.rest ∧
      PiecesBeginning rules reserved octets cut used := by
  rcases Reading.readEscape_stuck read with whole | ⟨high, value, rfl, digit⟩
  · exact ⟨_, _, [], whole.symm, nil⟩
  · exact ⟨_, _, [Octet.backslash, high], rfl, .within .nil digit⟩

end PiecesBeginning

namespace Reading

theorem readQuotedPieces_stuck {rules : Rules} {start text : List UInt8} {stuck : Stuck}
    (read : readQuotedPieces rules start text = .error stuck) :
    stuck = ⟨.quoteUnterminated, start⟩ ∨
      ∃ octets cut used, text = used ++ stuck.rest ∧
        PiecesBeginning rules [Octet.quote, Octet.backslash] octets cut used := by
  fun_induction readQuotedPieces rules start text with
  | case1 =>
      cases read
      exact .inl rfl
  | case2 => cases read
  | case3 after stopped escape =>
      cases read
      exact .inr (PiecesBeginning.of_readEscape escape)
  | case4 => cases read
  | case5 after piece remaining escape stopped deeper _ ih =>
      cases read
      obtain ⟨spelling, same, first⟩ := readEscape_eq_ok_iff.mp escape
      refine (ih deeper).imp_right ?_
      rintro ⟨octets, cut, used, rfl, begun⟩
      exact ⟨_, _, spelling ++ used, by rw [same, List.append_assoc], begun.escape first⟩
  | case6 => cases read
  | case7 octet after noQuote noBackslash stopped deeper ih =>
      cases read
      refine (ih deeper).imp_right ?_
      rintro ⟨octets, cut, used, rfl, begun⟩
      exact ⟨_, _, octet :: used, rfl, begun.plain (by simp [noQuote, noBackslash])⟩

theorem readPlainPieces_stuck {rules : Rules} {text : List UInt8} {stuck : Stuck}
    (read : readPlainPieces rules text = .error stuck) :
    ∃ octets cut used, text = used ++ stuck.rest ∧
      PiecesBeginning rules rules.dialect.reserved octets cut used := by
  fun_induction readPlainPieces rules text with
  | case1 => cases read
  | case2 => cases read
  | case3 after stopped escape =>
      cases read
      exact PiecesBeginning.of_readEscape escape
  | case4 => cases read
  | case5 after piece remaining escape stopped deeper _ ih =>
      cases read
      obtain ⟨spelling, same, first⟩ := readEscape_eq_ok_iff.mp escape
      obtain ⟨octets, cut, used, rfl, begun⟩ := ih deeper
      exact ⟨_, _, spelling ++ used, by rw [same, List.append_assoc], begun.escape first⟩
  | case6 octet after _ _ fault =>
      cases read
      exact ⟨_, _, [], rfl, .nil⟩
  | case7 => cases read
  | case8 octet after ends noBackslash noFault stopped deeper ih =>
      cases read
      obtain ⟨octets, cut, used, rfl, begun⟩ := ih deeper
      have free : octet ∉ rules.dialect.reserved :=
        (not_mem_reserved_iff _ _).mpr ⟨by simpa using ends, noBackslash, noFault⟩
      exact ⟨_, _, octet :: used, rfl, begun.plain free⟩

end Reading

theorem HexBeginning.cons {high low highValue lowValue : UInt8} {octets digits : List UInt8}
    {cut : Cut} (highDigit : HexDigit high highValue) (lowDigit : HexDigit low lowValue)
    (begun : HexBeginning octets cut digits) :
    HexBeginning ((highValue * 16 + lowValue) :: octets) cut (high :: low :: digits) := by
  cases begun with
  | between spelled => exact .between (.cons highDigit lowDigit spelled)
  | within spelled digit => exact .within (.cons highDigit lowDigit spelled) digit

theorem HexBeginning.singleton {digit value : UInt8} (isDigit : HexDigit digit value) :
    HexBeginning [] (.within value) [digit] :=
  .within .nil isDigit

namespace Reading

theorem hexOctets_stuck {digits rest : List UInt8} {wrong : UInt8}
    (read : hexOctets digits = .error (wrong, rest)) :
    ∃ octets cut used, digits = used ++ rest ∧ HexBeginning octets cut used := by
  fun_induction hexOctets digits with
  | case1 =>
      cases read
      exact ⟨_, _, [], rfl, .between .nil⟩
  | case2 high low rest value _ highFound =>
      cases read
      exact ⟨_, _, [high], rfl, .singleton (Octet.hexValue?_eq_some_iff.mp highFound)⟩
  | case3 => cases read
  | case4 high low rest highValue lowValue lowFound highFound stopped deeper ih =>
      cases read
      obtain ⟨octets, cut, used, rfl, begun⟩ := ih deeper
      exact ⟨_, _, high :: low :: used, rfl, begun.cons (Octet.hexValue?_eq_some_iff.mp highFound)
        (Octet.hexValue?_eq_some_iff.mp lowFound)⟩
  | case5 => cases read

/-- Only digits begin a hexadecimal string, however many they are. -/
theorem begins_or_wrong (digits : List UInt8) :
    (∃ octets cut, HexBeginning octets cut digits) ∨
      ∃ digit ∈ digits, ∀ value, ¬HexDigit digit value := by
  fun_induction hexOctets digits with
  | case1 high low rest none =>
      exact .inr ⟨high, by simp, Octet.hexValue?_eq_none_iff.mp none⟩
  | case2 high low rest value none _ =>
      exact .inr ⟨low, by simp, Octet.hexValue?_eq_none_iff.mp none⟩
  | case3 high low rest highValue lowValue lowFound highFound _ _ ih
  | case4 high low rest highValue lowValue lowFound highFound _ _ ih =>
      rcases ih with ⟨octets, cut, begun⟩ | ⟨digit, member, wrong⟩
      · exact .inl ⟨_, _, begun.cons (Octet.hexValue?_eq_some_iff.mp highFound)
          (Octet.hexValue?_eq_some_iff.mp lowFound)⟩
      · exact .inr ⟨digit, by simp [member], wrong⟩
  | case5 digits short =>
      cases digits with
      | nil => exact .inl ⟨_, _, .between .nil⟩
      | cons digit rest =>
          cases rest with
          | nil =>
              cases found : Octet.hexValue? digit with
              | none => exact .inr ⟨digit, by simp, Octet.hexValue?_eq_none_iff.mp found⟩
              | some value => exact .inl ⟨_, _, .singleton (Octet.hexValue?_eq_some_iff.mp found)⟩
          | cons low rest => exact absurd rfl (short digit low rest)

theorem finishValue_stuck {rules : Rules} {text : List UInt8} {stuck : Stuck}
    (read : finishValue rules text = .error stuck) :
    ∃ padding, text = padding ++ stuck.rest ∧ Padding rules padding := by
  unfold finishValue at read
  split at read
  · next skipped =>
      cases read
      exact ⟨[], (skipPadding_stuck skipped).symm, padding_nil rules⟩
  · cases read
  · next skipped =>
      split at read
      · cases read
      · cases read
        obtain ⟨padding, same, padded, _⟩ := skipPadding_eq_ok_iff.mp skipped
        exact ⟨padding, same, padded⟩

theorem code_of_decodeValue {octets start : List UInt8} {flags : ValueFlags} {stuck : Stuck}
    (read : decodeValue octets flags start = .error stuck) :
    stuck.fault.code ≠ ResultCode.invalidSyntax := by
  obtain ⟨good, -, rfl⟩ := decodeValue_eq_error read
  show ResultCode.decodingError ≠ ResultCode.invalidSyntax
  decide

variable {rules : Rules} {text : List UInt8} {stuck : Stuck}

theorem readHexValue_stuck (read : readHexValue rules text = .error stuck)
    (syntactic : stuck.fault.code = ResultCode.invalidSyntax) :
    ∃ used, Octet.hash :: text = used ++ stuck.rest ∧
      ((∃ octets cut, ValueBeginning rules octets cut used) ∨
        stuck.fault = .hexDigitsOdd ∧ HasWrongDigit rules.dialect used) := by
  have split : Octet.hash :: text = (Octet.hash :: text.takeWhile (isHexStringOctet rules.dialect)) ++
      text.dropWhile (isHexStringOctet rules.dialect) := by
    rw [List.cons_append, List.takeWhile_append_dropWhile]
  unfold readHexValue at read
  split at read
  · cases read
    exact ⟨[Octet.hash], rfl, .inl ⟨_, _, .hexString (.between .nil)⟩⟩
  next some =>
  split at read
  · next odd =>
      cases read
      refine ⟨_, split, ?_⟩
      rcases begins_or_wrong (text.takeWhile (isHexStringOctet rules.dialect)) with
        ⟨octets, cut, begun⟩ | wrong
      · exact .inl ⟨_, _, .hexString begun⟩
      · exact .inr ⟨rfl, _, rfl, odd, fun octet member => List.mem_takeWhile_imp member, wrong⟩
  next even =>
  split at read
  · next wrong digits wrongRead =>
      cases read
      obtain ⟨octets, cut, used, same, begun⟩ := hexOctets_stuck wrongRead
      rw [same] at split
      exact ⟨Octet.hash :: used, by rw [split]; simp, .inl ⟨_, _, .hexString begun⟩⟩
  next octets digitsRead =>
  have spelled := hexOctets_sound (by omega) digitsRead
  split at read
  · next finished =>
      cases read
      obtain ⟨padding, same, padded⟩ := finishValue_stuck finished
      rw [same] at split
      by_cases none : padding = []
      · rw [none] at split
        exact ⟨_, split, .inl ⟨_, _, .hexString (.between spelled)⟩⟩
      · refine ⟨Octet.hash :: (text.takeWhile (isHexStringOctet rules.dialect) ++ padding), ?_,
          .inl ⟨_, _, .hexStringEnd (by simpa using some) spelled none padded⟩⟩
        rw [split]
        simp
  · split at read
    · cases read
    · next decoded =>
        cases read
        exact absurd syntactic (code_of_decodeValue decoded)

theorem readQuotedValue_stuck (lenient : rules.dialect = .lenient)
    (read : readQuotedValue rules text = .error stuck)
    (syntactic : stuck.fault.code = ResultCode.invalidSyntax) :
    ∃ octets cut used, Octet.quote :: text = used ++ stuck.rest ∧
      ValueBeginning rules octets cut used := by
  unfold readQuotedValue at read
  split at read
  · next piecesRead =>
      cases read
      rcases readQuotedPieces_stuck piecesRead with rfl | ⟨octets, cut, used, same, begun⟩
      · exact ⟨_, _, [], rfl, .plain .nil (by simp) (by simp)⟩
      · exact ⟨_, _, Octet.quote :: used, by rw [same, List.cons_append],
          .quoted lenient begun⟩
  next pieces after piecesRead =>
  obtain ⟨inner, rfl, spelled⟩ := readQuotedPieces_sound piecesRead
  split at read
  · next finished =>
      cases read
      obtain ⟨padding, rfl, padded⟩ := finishValue_stuck finished
      exact ⟨_, _, Octet.quote :: (inner ++ Octet.quote :: padding), by simp,
        .quotedEnd lenient spelled padded⟩
  · split at read
    · cases read
    · next decoded =>
        cases read
        exact absurd syntactic (code_of_decodeValue decoded)

theorem readPlainValue_stuck (noHash : text.head? ≠ some Octet.hash)
    (noSpace : rules.dialect ≠ .dce → text.head? ≠ some Octet.space)
    (read : readPlainValue rules text = .error stuck)
    (syntactic : stuck.fault.code = ResultCode.invalidSyntax) :
    ∃ octets cut used, text = used ++ stuck.rest ∧ ValueBeginning rules octets cut used := by
  have plain : (∃ octets cut used, text = used ++ stuck.rest ∧
      PiecesBeginning rules rules.dialect.reserved octets cut used) →
      ∃ octets cut used, text = used ++ stuck.rest ∧ ValueBeginning rules octets cut used := by
    rintro ⟨octets, cut, used, same, begun⟩
    have head : ∀ octet, used.head? = some octet → text.head? = some octet := by
      intro octet first
      rw [same, List.head?_append, first]
      rfl
    exact ⟨octets, cut, used, same, .plain begun (fun hash => noHash (head _ hash))
      fun ldap space => noSpace ldap (head _ space)⟩
  have finished {pieces : List Piece} {rest : List UInt8}
      (read : readPlainValue.finish text pieces rest = .error stuck) : False := by
    unfold readPlainValue.finish at read
    split at read
    · cases read
    · next decoded =>
        cases read
        exact code_of_decodeValue decoded syntactic
  unfold readPlainValue at read
  split at read
  · next piecesRead =>
      cases read
      exact plain (readPlainPieces_stuck piecesRead)
  next pieces rest piecesRead =>
  split at read
  · split at read
    · cases read
      obtain ⟨used, same, spelled, _⟩ := readPlainPieces_sound piecesRead
      obtain ⟨before, rfl, beforeSpelled⟩ := spelled.beforeFinalSpaces
      rw [List.append_assoc] at same
      exact plain ⟨_, _, before, same, .between beforeSpelled⟩
    · exact (finished read).elim
  · exact (finished read).elim

theorem readValue_stuck (noSpace : rules.dialect ≠ .dce → text.head? ≠ some Octet.space)
    (read : readValue rules text = .error stuck)
    (syntactic : stuck.fault.code = ResultCode.invalidSyntax) :
    ∃ used, text = used ++ stuck.rest ∧
      ((∃ octets cut, ValueBeginning rules octets cut used) ∨
        stuck.fault = .hexDigitsOdd ∧ HasWrongDigit rules.dialect used) := by
  have begins : (∃ octets cut used, text = used ++ stuck.rest ∧
      ValueBeginning rules octets cut used) → ∃ used, text = used ++ stuck.rest ∧
        ((∃ octets cut, ValueBeginning rules octets cut used) ∨
          stuck.fault = .hexDigitsOdd ∧ HasWrongDigit rules.dialect used) :=
    fun ⟨octets, cut, used, same, begun⟩ => ⟨used, same, .inl ⟨octets, cut, begun⟩⟩
  unfold readValue at read
  split at read
  · exact begins (readPlainValue_stuck (by simp) noSpace read syntactic)
  next first after =>
  split at read
  · next hash =>
      rw [hash]
      exact readHexValue_stuck read syntactic
  next noHash =>
  have head : (first :: after).head? ≠ some Octet.hash := by simpa using noHash
  split at read
  · next quote =>
      split at read
      · next lenient =>
          rw [quote] at begins ⊢
          exact begins (readQuotedValue_stuck lenient read syntactic)
      · cases read
        exact begins ⟨_, _, [], rfl, .plain .nil (by simp) (by simp)⟩
      · exact begins (readPlainValue_stuck head noSpace read syntactic)
  · exact begins (readPlainValue_stuck head noSpace read syntactic)

end Reading

/-- What has been read of an assertion up to a syntax fault. -/
inductive AvaBreak (rules : Rules) (fault : SyntaxFault) : List UInt8 → Prop where
  | completable {last more : List UInt8} {ava : Ava}
      (spelled : AvaSpelling rules ava (last ++ more))
      (noSpace : more.head? ≠ some Octet.space) : AvaBreak rules fault last
  | inValue {opening value octets : List UInt8} {cut : Cut} (opened : AvaOpening rules opening)
      (begun : ValueBeginning rules octets cut value) : AvaBreak rules fault (opening ++ value)
  | wrongDigit {opening value : List UInt8} (opened : AvaOpening rules opening)
      (odd : fault = .hexDigitsOdd) (wrong : HasWrongDigit rules.dialect value) :
      AvaBreak rules fault (opening ++ value)

/-- A type with an equals sign spells an assertion with an empty value. -/
theorem avaSpelling_empty {rules : Rules} {type : String}
    {beforeType typeText afterType : List UInt8} (typePadded : Padding rules beforeType)
    (typed : TypeSpelling rules.dialect type typeText) (equalsPadded : Padding rules afterType) :
    AvaSpelling rules (.string type "") (beforeType ++ typeText ++ afterType ++ [Octet.equals]) := by
  have none := Reading.padding_nil rules
  have empty : ValueSpelling rules ⟨"", .string⟩ [] :=
    .plain .nil (by simp) (by simp) rfl (.inr ⟨rfl, by simp⟩)
  exact .intro typePadded typed equalsPadded none empty none

namespace AvaBreak

variable {rules : Rules} {fault : SyntaxFault}

theorem in_type {type : String} {beforeType used : List UInt8}
    (typePadded : Padding rules beforeType)
    (typed : TypeSpelling rules.dialect type (used ++ octetsOf "1.2")) :
    AvaBreak rules fault (beforeType ++ used) := by
  have spelled := avaSpelling_empty typePadded typed (Reading.padding_nil rules)
  rw [List.append_nil, ← List.append_assoc, List.append_assoc] at spelled
  exact .completable spelled (by decide)

theorem nil : AvaBreak rules fault [] := by
  have number : IsDottedNumber (octetsOf "1.2") := @Reading.isDottedNumber_completed [] (by simp [AreArcs])
  exact @in_type _ _ "1.2" [] [] (Reading.padding_nil rules) (.number number)

theorem behind_type {type : String} {beforeType typeText afterType : List UInt8}
    (typePadded : Padding rules beforeType)
    (typed : TypeSpelling rules.dialect type typeText) (equalsPadded : Padding rules afterType) :
    AvaBreak rules fault (beforeType ++ typeText ++ afterType) :=
  .completable (avaSpelling_empty typePadded typed equalsPadded) (by decide)

theorem behind_equals {type : String} {beforeType typeText afterType : List UInt8}
    (typePadded : Padding rules beforeType)
    (typed : TypeSpelling rules.dialect type typeText) (equalsPadded : Padding rules afterType) :
    AvaBreak rules fault (beforeType ++ typeText ++ afterType ++ [Octet.equals]) := by
  have spelled := avaSpelling_empty typePadded typed equalsPadded
  rw [← List.append_nil (_ ++ [Octet.equals])] at spelled
  exact .completable spelled (by simp)

end AvaBreak

namespace Reading

variable {rules : Rules} {text : List UInt8} {stuck : Stuck}

theorem passEquals_stuck (read : passEquals text = .error stuck) : stuck.rest = text := by
  unfold passEquals at read
  split at read
  · cases read
    rfl
  · split at read
    · cases read
    · cases read
      rfl

theorem readAva_stuck (read : readAva rules text = .error stuck)
    (syntactic : stuck.fault.code = ResultCode.invalidSyntax) :
    ∃ last, text = last ++ stuck.rest ∧ AvaBreak rules stuck.fault last := by
  simp only [readAva, bind_eq_error_iff, Prod.exists] at read
  rcases read with skipped | ⟨afterPadding, skipped, read⟩
  · exact ⟨[], (skipPadding_stuck skipped).symm, .nil⟩
  obtain ⟨beforeType, rfl, typePadded, _⟩ := skipPadding_eq_ok_iff.mp skipped
  rcases read with typeRead | ⟨type, _, typeRead, read⟩
  · obtain ⟨used, type, same, typed⟩ := readType_stuck typeRead
    exact ⟨_, by rw [same, List.append_assoc], .in_type typePadded typed⟩
  obtain ⟨typeText, rfl, typed⟩ := readType_sound typeRead
  rcases read with skipped | ⟨afterType, skipped, read⟩
  · refine ⟨_, ?_, .behind_type typePadded typed (padding_nil rules)⟩
    rw [skipPadding_stuck skipped, List.append_nil, List.append_assoc]
  obtain ⟨beforeEquals, rfl, equalsPadded, _⟩ := skipPadding_eq_ok_iff.mp skipped
  rcases read with passed | ⟨_, passed, read⟩
  · refine ⟨_, ?_, .behind_type typePadded typed equalsPadded⟩
    rw [passEquals_stuck passed]
    simp only [List.append_assoc]
  rw [passEquals_eq_ok_iff] at passed
  subst passed
  rcases read with skipped | ⟨_, skipped, read⟩
  · refine ⟨_, ?_, .behind_equals typePadded typed equalsPadded⟩
    rw [skipPadding_stuck skipped]
    simp only [List.append_assoc, List.singleton_append]
  obtain ⟨beforeValue, rfl, valuePadded, noSpace⟩ := skipPadding_eq_ok_iff.mp skipped
  have opened := AvaOpening.intro typePadded typed equalsPadded valuePadded
  rcases read with valueRead | ⟨_, _, _, returned⟩
  · obtain ⟨used, same, begun⟩ := readValue_stuck
      (fun ldap space => noSpace ldap _ space rfl) valueRead syntactic
    refine ⟨beforeType ++ typeText ++ beforeEquals ++ Octet.equals :: beforeValue ++ used, ?_, ?_⟩
    · rw [same]
      simp only [List.append_assoc, List.cons_append]
    · rcases begun with ⟨octets, cut, begun⟩ | ⟨odd, wrong⟩
      · exact .inValue opened begun
      · exact .wrongDigit opened odd wrong
  · cases returned

section Break

variable {Broken : List UInt8 → List UInt8 → Prop}
  (inAva : ∀ {text}, readAva rules text = .error stuck →
    ∃ last after, text = last ++ after ∧ Broken last after)
include inAva

/-- Whatever is known of an assertion in which a reader gets stuck, it gets stuck in the last
one that it began. -/
theorem readAvas_error (read : readAvas rules text = .error stuck) :
    ∃ last used after, text = used ++ after ∧ Broken last after ∧ RdnBreak rules last used := by
  fun_induction readAvas rules text with
  | case1 text stopped avaRead =>
      cases read
      obtain ⟨last, after, same, broken⟩ := inAva avaRead
      exact ⟨last, last, after, same, broken, .here⟩
  | case2 => cases read
  | case3 text ava next after avaRead joins stopped deeper ih =>
      cases read
      obtain ⟨first, rfl, spelled, _⟩ := readAva_sound avaRead
      obtain ⟨last, used, behind, rfl, broken, others⟩ := ih deeper
      obtain rfl := (Dialect.joinsAvas_iff _ _).mp joins
      exact ⟨last, _, behind, (List.append_assoc _ (_ :: _) _).symm, broken, .more spelled others⟩
  | case4 => cases read
  | case5 => cases read

theorem readRdns_error (ldap : rules.dialect ≠ .dce)
    (atSpace : stuck.fault = .spaceAfterSeparator → Broken [] stuck.rest)
    (read : readRdns rules text = .error stuck) :
    ∃ last used after, text = used ++ after ∧ Broken last after ∧ RdnsBreak rules last used := by
  fun_induction readRdns rules text with
  | case1 text stopped rdnRead =>
      cases read
      obtain ⟨last, used, after, same, broken, within⟩ := readAvas_error inAva rdnRead
      exact ⟨last, used, after, same, broken, .here within⟩
  | case2 => cases read
  | case3 text rdn next after rdnRead separates spaced =>
      cases read
      obtain ⟨first, rfl, spelled, _⟩ := readAvas_sound rdnRead
      have separates := (Dialect.separatesRdns_iff ldap _).mp separates
      exact ⟨[], first ++ [next], after, by simp, atSpace rfl,
        .more spelled separates (by simp) (.here .here)⟩
  | case4 text rdn next after rdnRead separates noSpace stopped deeper ih =>
      cases read
      obtain ⟨first, rfl, spelled, _⟩ := readAvas_sound rdnRead
      obtain ⟨last, used, behind, rfl, broken, others⟩ := ih deeper
      have separates := (Dialect.separatesRdns_iff ldap _).mp separates
      refine ⟨last, _, behind, (List.append_assoc _ (_ :: _) _).symm, broken,
        .more spelled separates ?_ others⟩
      intro strict space
      apply noSpace
      rw [List.head?_append, space]
      simp [strict]
  | case5 => cases read
  | case6 text rdn next after rdnRead separates =>
      -- A component ends where another one is separated from it, or with the text.
      obtain ⟨_, _, _, ends⟩ := readAvas_sound rdnRead
      rw [follows_cons, Dialect.endsRdn_iff_separates ldap] at ends
      exact absurd ends separates

theorem readPath_error (dce : rules.dialect = .dce) (begins : Follows (· = Octet.slash) text)
    (read : readPath rules text = .error stuck) :
    ∃ last used after, text = used ++ after ∧ Broken last after ∧ PathBreak rules last used := by
  fun_induction readPath rules text with
  | case1 => cases read
  | case2 after stopped rdnRead =>
      cases read
      obtain ⟨last, used, behind, rfl, broken, within⟩ := readAvas_error inAva rdnRead
      exact ⟨last, Octet.slash :: used, behind, rfl, broken, .here within⟩
  | case3 after rdn rest rdnRead stopped deeper ih =>
      cases read
      obtain ⟨first, rfl, spelled, ends⟩ := readAvas_sound rdnRead
      rw [dce] at ends
      obtain ⟨last, used, behind, rfl, broken, others⟩ :=
        ih (ends.mono fun octet => (Dialect.endsRdn_dce octet).mp) deeper
      exact ⟨last, Octet.slash :: (first ++ used), behind, by simp, broken, .more spelled others⟩
  | case4 => cases read
  | case5 next after noSlash =>
      rw [follows_cons] at begins
      exact absurd begins noSlash

/-- A name is not begun at all, or it breaks off in an assertion. -/
theorem readName_error (atSpace : stuck.fault = .spaceAfterSeparator → Broken [] stuck.rest)
    (read : readName rules text = .error stuck) :
    (stuck.fault = .slashExpected ∧ stuck.rest = text) ∨
      ∃ last used after, text = used ++ after ∧ Broken last after ∧
        NameBreak rules last used := by
  by_cases dce : rules.dialect = .dce
  · simp only [nameBreak_dce dce]
    rw [readName_eq_readPath dce, map_eq_error_iff] at read
    by_cases begins : Follows (· = Octet.slash) text
    · exact .inr (readPath_error inAva dce begins read)
    · cases text with
      | nil => exact absurd (follows_nil _) begins
      | cons next after =>
          rw [follows_cons] at begins
          rw [readPath_cons, if_neg begins] at read
          cases read
          exact .inl ⟨rfl, rfl⟩
  · simp only [nameBreak_ldap dce]
    by_cases root : isRootText rules text = true
    · rw [readName, if_pos root] at read
      cases read
    rw [readName_eq_readRdns dce root, map_eq_error_iff] at read
    exact .inr (readRdns_error inAva dce atSpace read)

end Break

/-- A syntax fault is reported where an assertion cannot go on, or at the very beginning. -/
theorem readName_stuck (read : readName rules text = .error stuck)
    (syntactic : stuck.fault.code = ResultCode.invalidSyntax) :
    ∃ used, text = used ++ stuck.rest ∧
      (used = [] ∨ ∃ last, AvaBreak rules stuck.fault last ∧ NameBreak rules last used) := by
  have inAva {text} (read : readAva rules text = .error stuck) : ∃ last after,
      text = last ++ after ∧ after = stuck.rest ∧ AvaBreak rules stuck.fault last := by
    obtain ⟨last, same, broken⟩ := readAva_stuck read syntactic
    exact ⟨last, _, same, rfl, broken⟩
  obtain ⟨-, whole⟩ | ⟨last, used, after, same, ⟨rfl, broken⟩, within⟩ :=
    readName_error inAva (fun _ => ⟨rfl, .nil⟩) read
  · exact ⟨[], whole.symm, .inl rfl⟩
  · exact ⟨used, same, .inr ⟨last, broken, within⟩⟩

end Reading

end DirectoryName

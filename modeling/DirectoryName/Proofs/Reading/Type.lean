import DirectoryName.Proofs.Reading.Basic

namespace DirectoryName

/-! Attribute types are read as they are spelled. -/

theorem IsDescriptor.ascii {octets : List UInt8} (descriptor : IsDescriptor octets) :
    ∀ octet ∈ octets, octet.toNat < 0x80 := by
  obtain ⟨first, rest, rfl, letter, keys⟩ := descriptor
  intro octet member
  rcases List.mem_cons.mp member with rfl | member
  · exact Octet.isKeyOctet_ascii ((Octet.isKeyOctet_iff _).mpr (.inl letter))
  · exact Octet.isKeyOctet_ascii (keys octet member)

/-- Runs of digits, none of them empty. -/
def AreArcs (arcs : List (List UInt8)) : Prop :=
  ∀ arc ∈ arcs, arc ≠ [] ∧ ∀ octet ∈ arc, Octet.isDigit octet = true

theorem areArcs_cons {arc : List UInt8} {arcs : List (List UInt8)} :
    AreArcs (arc :: arcs) ↔
      (arc ≠ [] ∧ ∀ octet ∈ arc, Octet.isDigit octet = true) ∧ AreArcs arcs := by
  simp only [AreArcs, List.forall_mem_cons]

theorem AreArcs.mem_intercalate {arcs : List (List UInt8)} (are : AreArcs arcs) :
    ∀ octet ∈ [Octet.dot].intercalate arcs, octet = Octet.dot ∨ Octet.isDigit octet = true := by
  induction arcs with
  | nil => simp
  | cons arc arcs ih =>
      rw [areArcs_cons] at are
      intro octet member
      cases arcs with
      | nil =>
          rw [List.intercalate_singleton] at member
          exact .inr (are.1.2 octet member)
      | cons next others =>
          rw [List.intercalate_cons_cons, List.mem_append, List.mem_append,
            List.mem_singleton] at member
          rcases member with (member | rfl) | member
          · exact .inr (are.1.2 octet member)
          · exact .inl rfl
          · exact ih are.2 octet member

theorem IsDottedNumber.ascii {octets : List UInt8} (number : IsDottedNumber octets) :
    ∀ octet ∈ octets, octet.toNat < 0x80 := by
  obtain ⟨arcs, rfl, _, are⟩ := number
  intro octet member
  rcases AreArcs.mem_intercalate are octet member with rfl | digit
  · decide
  · rw [Octet.isDigit_iff] at digit
    omega

theorem IsDottedNumber.cons_digit {octets : List UInt8} (number : IsDottedNumber octets) :
    ∃ first rest, octets = first :: rest ∧ Octet.isDigit first = true := by
  obtain ⟨arcs, rfl, many, are⟩ := number
  match arcs with
  | [] | [_] => simp at many
  | arc :: next :: others =>
      have are := areArcs_cons.mp are
      obtain ⟨first, digits, rfl⟩ := List.exists_cons_of_ne_nil are.1.1
      exact ⟨first, _, by rw [List.intercalate_cons_cons]; rfl, are.1.2 first (by simp)⟩

namespace Reading

theorem readArcs_sound {text rest : List UInt8} {arcs : List (List UInt8)}
    (read : readArcs text = .ok (arcs, rest)) :
    text = [Octet.dot].intercalate arcs ++ rest ∧ arcs ≠ [] ∧ AreArcs arcs := by
  have run : ∀ text : List UInt8, ¬(text.takeWhile Octet.isDigit).isEmpty →
      text.takeWhile Octet.isDigit ≠ [] ∧
        ∀ octet ∈ text.takeWhile Octet.isDigit, Octet.isDigit octet = true :=
    fun _ some => ⟨fun none => some (by rw [none]; rfl), fun _ => List.mem_takeWhile_imp⟩
  fun_induction readArcs text generalizing arcs with
  | case1 => cases read
  | case2 text some found =>
      cases read
      refine ⟨?_, List.cons_ne_nil _ _, areArcs_cons.mpr ⟨run text some, by simp [AreArcs]⟩⟩
      rw [List.intercalate_singleton, ← found, List.takeWhile_append_dropWhile]
  | case3 text some after more tail deeper found ih =>
      cases read
      obtain ⟨same, nonempty, are⟩ := ih deeper
      refine ⟨?_, List.cons_ne_nil _ _, areArcs_cons.mpr ⟨run text some, are⟩⟩
      rw [List.intercalate_cons_of_ne_nil nonempty, List.append_assoc, List.append_assoc, ← same]
      exact (List.takeWhile_append_dropWhile.symm.trans (congrArg _ found))
  | case4 => cases read
  | case5 text some next after found =>
      cases read
      refine ⟨?_, List.cons_ne_nil _ _, areArcs_cons.mpr ⟨run text some, by simp [AreArcs]⟩⟩
      rw [List.intercalate_singleton, ← found, List.takeWhile_append_dropWhile]

/-- One run of digits, and what the octet after it leads to. -/
theorem readArcs_append {arc rest : List UInt8}
    (run : arc ≠ [] ∧ ∀ octet ∈ arc, Octet.isDigit octet = true)
    (stops : Follows (Octet.isDigit · = false) rest) :
    readArcs (arc ++ rest) =
      match rest with
      | [] => .ok ([arc], [])
      | next :: after =>
          if next = Octet.dot then
            match readArcs after with
            | .ok (arcs, rest) => .ok (arc :: arcs, rest)
            | .error stuck => .error stuck
          else .ok ([arc], next :: after) := by
  rw [readArcs, takeWhile_of_follows run.2 stops, if_neg (by simpa using run.1)]
  split
  · next found =>
      rw [dropWhile_of_follows run.2 stops] at found
      subst found
      rfl
  · next next after found =>
      rw [dropWhile_of_follows run.2 stops] at found
      subst found
      rfl

theorem readArcs_complete {arcs : List (List UInt8)} {rest : List UInt8} (nonempty : arcs ≠ [])
    (are : AreArcs arcs)
    (follows : Follows (fun octet => Octet.isDigit octet = false ∧ octet ≠ Octet.dot) rest) :
    readArcs ([Octet.dot].intercalate arcs ++ rest) = .ok (arcs, rest) := by
  induction arcs with
  | nil => exact absurd rfl nonempty
  | cons arc arcs ih =>
      rw [areArcs_cons] at are
      cases arcs with
      | nil =>
          rw [List.intercalate_singleton,
            readArcs_append are.1 (follows.mono fun _ stops => stops.1)]
          cases rest with
          | nil => rfl
          | cons next after =>
              rw [follows_cons] at follows
              exact if_neg follows.2
      | cons next others =>
          rw [List.intercalate_cons_cons, List.append_assoc, List.append_assoc,
            List.singleton_append, readArcs_append are.1 ((follows_cons _ _ _).mpr rfl)]
          simp only [if_pos, ih (List.cons_ne_nil _ _) are.2]

/-- What may stand between a type and the equals sign, or the sign itself. -/
def endsType (octet : UInt8) : Prop :=
  octet = Octet.space ∨ octet = Octet.equals

theorem isKeyOctet_of_endsType {octet : UInt8} (ends : endsType octet) :
    Octet.isKeyOctet octet = false := by
  rcases ends with rfl | rfl <;> decide

theorem readBareType_sound {text rest : List UInt8} {type : String}
    (read : readBareType text = .ok (type, rest)) :
    text = octetsOf type ++ rest ∧
      (IsDescriptor (octetsOf type) ∨ IsDottedNumber (octetsOf type)) := by
  unfold readBareType at read
  split at read
  · cases read
  next first after =>
  split at read
  · next letter =>
      have key : Octet.isKeyOctet first = true := (Octet.isKeyOctet_iff _).mpr (.inl letter)
      have descriptor : IsDescriptor ((first :: after).takeWhile Octet.isKeyOctet) := by
        rw [List.takeWhile_cons_of_pos key]
        exact ⟨first, _, rfl, letter, fun _ => List.mem_takeWhile_imp⟩
      cases read
      rw [Octet.octetsOf_textOf descriptor.ascii]
      exact ⟨List.takeWhile_append_dropWhile.symm, .inl descriptor⟩
  · split at read
    · split at read
      · next arcs remaining found =>
          obtain ⟨same, _, are⟩ := readArcs_sound found
          split at read
          · cases read
          · next many =>
              have number : IsDottedNumber ([Octet.dot].intercalate arcs) :=
                ⟨arcs, rfl, by omega, are⟩
              cases read
              rw [Octet.octetsOf_textOf number.ascii]
              exact ⟨same, .inr number⟩
      · cases read
    · cases read

theorem readBareType_descriptor {type : String} {rest : List UInt8}
    (descriptor : IsDescriptor (octetsOf type)) (follows : Follows endsType rest) :
    readBareType (octetsOf type ++ rest) = .ok (type, rest) := by
  have text := Octet.textOf_octetsOf descriptor.ascii
  obtain ⟨first, others, same, letter, keys⟩ := descriptor
  have key : Octet.isKeyOctet first = true := (Octet.isKeyOctet_iff _).mpr (.inl letter)
  have kept : ∀ octet ∈ first :: others, Octet.isKeyOctet octet = true :=
    List.forall_mem_cons.mpr ⟨key, keys⟩
  have stops := follows.mono fun _ => isKeyOctet_of_endsType
  rw [same] at text ⊢
  have taken := takeWhile_of_follows kept stops
  have dropped := dropWhile_of_follows kept stops
  rw [List.cons_append] at taken dropped ⊢
  simp only [readBareType, letter, if_true, taken, dropped, text]

theorem readBareType_number {type : String} {rest : List UInt8}
    (number : IsDottedNumber (octetsOf type)) (follows : Follows endsType rest) :
    readBareType (octetsOf type ++ rest) = .ok (type, rest) := by
  have text := Octet.textOf_octetsOf number.ascii
  obtain ⟨first, others, begins, digit⟩ := number.cons_digit
  have noLetter : Octet.isLetter first = false := by
    rw [← Bool.not_eq_true, Octet.isLetter_iff]
    rw [Octet.isDigit_iff] at digit
    omega
  obtain ⟨arcs, same, many, are⟩ := number
  have read : readArcs (octetsOf type ++ rest) = .ok (arcs, rest) := by
    have nonempty : arcs ≠ [] := by
      intro none
      simp [none] at many
    rw [same]
    apply readArcs_complete nonempty are
    refine follows.mono fun octet ends => ?_
    rcases ends with rfl | rfl <;> decide
  rw [begins, List.cons_append] at read ⊢
  simp only [readBareType, noLetter, digit, read, Bool.false_eq_true, if_false, if_true]
  rw [if_neg (by omega), ← same, text]

theorem isOidWord_iff {word : List UInt8} :
    IsOidWord word ↔
      ∃ o i d, word = [o, i, d, Octet.dot] ∧ (o = 0x6F ∨ o = 0x4F) ∧ (i = 0x69 ∨ i = 0x49) ∧
        (d = 0x64 ∨ d = 0x44) := by
  have letters : octetsOf "oO" = [0x6F, 0x4F] ∧ octetsOf "iI" = [0x69, 0x49] ∧
      octetsOf "dD" = [0x64, 0x44] := by decide
  simp only [IsOidWord, letters, List.mem_cons, List.not_mem_nil, or_false]

theorem dropOidWord_sound (dialect : Dialect) (text : List UInt8) :
    dropOidWord dialect text = text ∨
      ∃ word digit after, text = word ++ digit :: after ∧ dialect = .lenient ∧
        IsOidWord word ∧ Octet.isDigit digit = true ∧
          dropOidWord dialect text = digit :: after := by
  unfold dropOidWord
  split
  · next o i d dot digit rest =>
      split
      · next oid =>
          simp only [Bool.and_eq_true, Bool.or_eq_true, beq_iff_eq] at oid
          obtain ⟨⟨⟨⟨oLetter, iLetter⟩, dLetter⟩, rfl⟩, isDigit⟩ := oid
          exact .inr ⟨[o, i, d, Octet.dot], digit, rest, rfl, rfl,
            isOidWord_iff.mpr ⟨o, i, d, rfl, oLetter, iLetter, dLetter⟩, isDigit, rfl⟩
      · exact .inl rfl
  · exact .inl rfl

theorem dropOidWord_of_oid {word rest : List UInt8} {digit : UInt8} (oid : IsOidWord word)
    (isDigit : Octet.isDigit digit = true) :
    dropOidWord .lenient (word ++ digit :: rest) = digit :: rest := by
  obtain ⟨o, i, d, rfl, oLetter, iLetter, dLetter⟩ := isOidWord_iff.mp oid
  simp only [dropOidWord, List.cons_append, List.nil_append]
  rw [if_pos (by simp [oLetter, iLetter, dLetter, isDigit])]

/-- Where no `oid.` begins the text, nothing is dropped. -/
theorem dropOidWord_eq_self {dialect : Dialect} {text : List UInt8}
    (none : ∀ word rest, text = word ++ rest → ¬IsOidWord word) :
    dropOidWord dialect text = text := by
  rcases dropOidWord_sound dialect text with same | ⟨word, digit, after, same, _, oid, _⟩
  · exact same
  · exact absurd oid (none word _ same)

theorem not_isOidWord_of_descriptor {octets rest word after : List UInt8}
    (descriptor : IsDescriptor octets) (follows : Follows endsType rest)
    (same : octets ++ rest = word ++ after) : ¬IsOidWord word := by
  intro oid
  obtain ⟨o, i, d, rfl, _, iLetter, dLetter⟩ := isOidWord_iff.mp oid
  obtain ⟨first, others, rfl, _, keys⟩ := descriptor
  -- the dot would have to be part of the descriptor, or what follows it part of the word
  match others with
  | [] =>
      simp only [List.cons_append, List.nil_append, List.cons.injEq] at same
      rw [same.2, follows_cons] at follows
      rcases follows with rfl | rfl <;> revert iLetter <;> decide
  | [_] =>
      simp only [List.cons_append, List.nil_append, List.cons.injEq] at same
      rw [same.2.2, follows_cons] at follows
      rcases follows with rfl | rfl <;> revert dLetter <;> decide
  | [_, _] =>
      simp only [List.cons_append, List.nil_append, List.cons.injEq] at same
      rw [same.2.2.2, follows_cons] at follows
      revert follows
      simp only [endsType]
      decide
  | _ :: _ :: fourth :: _ =>
      simp only [List.cons_append, List.nil_append, List.cons.injEq] at same
      have key := keys fourth (by simp)
      rw [same.2.2.2.1] at key
      revert key
      decide

theorem not_isOidWord_of_digit {digit : UInt8} {rest word after : List UInt8}
    (isDigit : Octet.isDigit digit = true) (same : digit :: rest = word ++ after) :
    ¬IsOidWord word := by
  intro oid
  obtain ⟨o, i, d, rfl, oLetter, _, _⟩ := isOidWord_iff.mp oid
  rw [List.cons_append, List.cons.injEq] at same
  rw [same.1] at isDigit
  rcases oLetter with rfl | rfl <;> revert isDigit <;> decide

/-- What is read as a type is spelled that way. -/
theorem readType_sound {dialect : Dialect} {text rest : List UInt8} {type : String}
    (read : readType dialect text = .ok (type, rest)) :
    ∃ used, text = used ++ rest ∧ TypeSpelling dialect type used := by
  unfold readType at read
  obtain ⟨same, kind⟩ := readBareType_sound read
  rcases dropOidWord_sound dialect text with bare | ⟨word, digit, after, split, lenient, oid,
    isDigit, dropped⟩
  · refine ⟨octetsOf type, bare.symm.trans same, ?_⟩
    rcases kind with descriptor | number
    · exact .descriptor descriptor
    · exact .number number
  · rw [dropped] at same
    refine ⟨word ++ octetsOf type, by rw [split, same, List.append_assoc], ?_⟩
    rcases kind with descriptor | number
    · -- a digit does not begin a descriptor
      obtain ⟨first, others, begins, letter, _⟩ := descriptor
      rw [begins, List.cons_append, List.cons.injEq] at same
      rw [← same.1, Octet.isLetter_iff] at letter
      rw [Octet.isDigit_iff] at isDigit
      omega
    · exact .oid lenient oid number

theorem readType_complete {dialect : Dialect} {used rest : List UInt8} {type : String}
    (spelled : TypeSpelling dialect type used) (follows : Follows endsType rest) :
    readType dialect (used ++ rest) = .ok (type, rest) := by
  unfold readType
  cases spelled with
  | descriptor descriptor =>
      rw [dropOidWord_eq_self fun _ _ => not_isOidWord_of_descriptor descriptor follows]
      exact readBareType_descriptor descriptor follows
  | number number =>
      rw [dropOidWord_eq_self]
      · exact readBareType_number number follows
      · obtain ⟨first, others, begins, digit⟩ := number.cons_digit
        rw [begins]
        exact fun _ _ => not_isOidWord_of_digit digit
  | oid lenient oid number =>
      have read := readBareType_number number follows
      obtain ⟨first, others, begins, digit⟩ := number.cons_digit
      subst lenient
      rw [begins, List.cons_append] at read
      rw [begins, List.append_assoc, List.cons_append, dropOidWord_of_oid oid digit]
      exact read

end Reading

/-- The text begins with a letter, a digit or a hyphen. -/
def BeginsWithKey (text : List UInt8) : Prop :=
  ∃ first others, text = first :: others ∧ Octet.isKeyOctet first = true

theorem BeginsWithKey.append {text : List UInt8} (begins : BeginsWithKey text)
    (rest : List UInt8) : BeginsWithKey (text ++ rest) := by
  obtain ⟨first, others, rfl, key⟩ := begins
  exact ⟨first, others ++ rest, rfl, key⟩

theorem BeginsWithKey.no_space {text : List UInt8} (begins : BeginsWithKey text) :
    Reading.Follows (· ≠ Octet.space) text := by
  obtain ⟨first, others, rfl, key⟩ := begins
  rw [Reading.follows_cons]
  intro space
  subst space
  exact absurd key (by decide)

theorem TypeSpelling.begins {dialect : Dialect} {type : String} {text : List UInt8}
    (spelled : TypeSpelling dialect type text) : BeginsWithKey text := by
  cases spelled with
  | descriptor descriptor =>
      obtain ⟨first, others, same, letter, _⟩ := descriptor
      exact ⟨first, others, same, (Octet.isKeyOctet_iff _).mpr (.inl letter)⟩
  | number number =>
      obtain ⟨first, others, same, digit⟩ := number.cons_digit
      exact ⟨first, others, same, (Octet.isKeyOctet_iff _).mpr (.inr (.inl digit))⟩
  | oid _ oid _ =>
      obtain ⟨o, i, d, rfl, oLetter, _⟩ := Reading.isOidWord_iff.mp oid
      refine ⟨o, _, rfl, ?_⟩
      rcases oLetter with rfl | rfl <;> decide

end DirectoryName

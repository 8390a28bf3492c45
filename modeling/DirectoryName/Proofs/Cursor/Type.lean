import DirectoryName.Proofs.Cursor.Parser
import DirectoryName.Proofs.Reading.Type

namespace DirectoryName.Cursor

/-! Padding and types, read with a cursor. -/

open Reading

variable {input text rest : List UInt8} {rules : Rules}

theorem skipSpaces_tracks (input : List UInt8) (rules : Rules) (fault : SyntaxFault) :
    Tracks input (skipSpaces input rules fault)
      fun text => (skipPadding rules fault text).map ((), ·) where
  walks {text} left := by
    unfold skipSpaces skipPadding
    by_cases padded : rules.dialect.padsWithSpaces = true
    · rw [if_pos padded, peek_bind, getElem?_place_zero left]
      by_cases space : text.head? = some Octet.space
      · by_cases strict : rules.strictness.noEdgeSpaces = true
        · rw [if_pos ⟨space, strict⟩, if_pos (by simp [padded, space]), if_pos strict]
          rfl
        · rw [if_neg (fun both => strict both.2), if_pos (by simp [padded, space]), if_neg strict]
          exact passOver_run _ left
      · rw [if_neg (fun both => space both.1), if_neg (by simp [space]), passOver_run _ left]
        cases text with
        | nil => rfl
        | cons octet rest =>
            rw [List.dropWhile_cons_of_neg (by simpa using space)]
            rfl
    · rw [if_neg padded, if_neg (by simp [padded])]
      rfl
  leaves {text _ rest} read := by
    cases skipped : skipPadding rules fault text with
    | error stuck => simp [skipped, Except.map] at read
    | ok remaining =>
        simp only [skipped, Except.map, Except.ok.injEq, Prod.mk.injEq] at read
        obtain ⟨padding, rfl, _, _⟩ := skipPadding_eq_ok_iff.mp skipped
        exact read.2 ▸ List.suffix_append _ _

/-! Types. -/

theorem asciiLowerChar_toChar : ∀ octet : UInt8,
    (Text.asciiLowerChar (Octet.toChar octet) = 'o' ↔ octet = 0x6F ∨ octet = 0x4F) ∧
      (Text.asciiLowerChar (Octet.toChar octet) = 'i' ↔ octet = 0x69 ∨ octet = 0x49) ∧
      (Text.asciiLowerChar (Octet.toChar octet) = 'd' ↔ octet = 0x64 ∨ octet = 0x44) ∧
      (Text.asciiLowerChar (Octet.toChar octet) = '.' ↔ octet = Octet.dot) :=
  Octet.forall_of_codes (by decide +kernel)

theorem isOidWord_eq (o i d dot : UInt8) :
    isOidWord [o, i, d, dot] =
      ((o == 0x6F || o == 0x4F) && (i == 0x69 || i == 0x49) && (d == 0x64 || d == 0x44) &&
        dot == Octet.dot) := by
  rw [Bool.eq_iff_iff]
  simp only [isOidWord, beq_iff_eq, ← String.toList_inj, Text.asciiLower, Octet.textOf,
    String.toList_ofList, List.map_cons, List.map_nil, String.reduceToList, List.cons.injEq,
    asciiLowerChar_toChar, Bool.and_eq_true, Bool.or_eq_true, and_true, and_assoc]

theorem skipOidWord_run (rules : Rules) (left : text <:+ input) :
    skipOidWord input rules (place input text) =
      .ok ((), place input (dropOidWord rules.dialect text)) := by
  unfold skipOidWord
  cases rules.dialect with
  | strictV3 | dce => rfl
  | lenient =>
      simp only [here_bind, bind_ok (slice_place left _)]
      match text, left with
      | [], _ | [_], _ | [_, _], _ | [_, _, _], _ | [_, _, _, _], _ => rfl
      | o :: i :: d :: dot :: digit :: rest, left =>
          have word (cursor : Nat) : slice (o :: i :: d :: dot :: digit :: rest) 0 4 cursor =
              .ok ([o, i, d, dot], cursor) := slice_run (Nat.zero_le _) (by simp) cursor
          have next (cursor : Nat) : octetAt (o :: i :: d :: dot :: digit :: rest) 4 cursor =
              .ok (digit, cursor) := octetAt_run rfl cursor
          have moved : advance input 4 (place input (o :: i :: d :: dot :: digit :: rest)) =
              .ok ((), place input (digit :: rest)) :=
            @advance_over input (digit :: rest) [o, i, d, dot] left
          rw [if_pos (by simp), bind_ok (word _), isOidWord_eq, dropOidWord]
          by_cases spelled : ((o == 0x6F || o == 0x4F) && (i == 0x69 || i == 0x49) &&
              (d == 0x64 || d == 0x44) && dot == Octet.dot) = true
          · rw [if_pos spelled, bind_ok (next _), spelled, Bool.true_and]
            split
            · exact moved
            · rfl
          · rw [if_neg spelled, if_neg (by simp [spelled])]
            rfl

theorem any_head?_eq (keep : UInt8 → Bool) (text : List UInt8) :
    text.head?.any keep = !(text.takeWhile keep).isEmpty := by
  cases text with
  | nil => rfl
  | cons octet rest => cases kept : keep octet <;> simp [kept]

/-- A round that passes over a run of digits. -/
theorem arcsRound_run (left : text <:+ input) (some : ¬(text.takeWhile Octet.isDigit).isEmpty = true)
    (arcs : Nat) :
    arcsRound input arcs (place input text) =
      match text.dropWhile Octet.isDigit with
      | [] => .ok (.last (arcs + 1), place input [])
      | next :: after =>
          if next = Octet.dot then .ok (.again (arcs + 1), place input after)
          else .ok (.last (arcs + 1), place input (next :: after)) := by
  have begins : text.head?.any Octet.isDigit = true := by simp [any_head?_eq, some]
  have behind : text.dropWhile Octet.isDigit <:+ input :=
    (List.dropWhile_suffix _).trans left
  rw [arcsRound, peek_bind, getElem?_place_zero left, if_pos begins, passOver_bind _ left, peek_bind,
    getElem?_place_zero behind]
  cases goesOn : text.dropWhile Octet.isDigit with
  | nil => rfl
  | cons next after =>
      rw [goesOn] at behind
      by_cases dot : next = Octet.dot
      · rw [if_pos (by rw [dot]; rfl), bind_ok (advance_one behind)]
        exact (if_pos dot).symm
      · rw [if_neg (by simpa using dot)]
        exact (if_neg dot).symm

/-- Passing over a run of digits that is not empty is progress. -/
theorem place_lt_digits (left : text <:+ input)
    (some : ¬(text.takeWhile Octet.isDigit).isEmpty = true) :
    place input text < place input (text.dropWhile Octet.isDigit) := by
  apply place_lt left
  have split := congrArg List.length (@List.takeWhile_append_dropWhile _ Octet.isDigit text)
  have passed : 0 < (text.takeWhile Octet.isDigit).length := by
    rwa [List.length_pos_iff, ne_eq, ← List.isEmpty_iff]
  rw [List.length_append] at split
  omega

theorem arcs_run (left : text <:+ input) (count : Nat) :
    loop input (arcsRound input) count (place input text) =
      located input ((readArcs text).map fun (arcs, rest) => (count + arcs.length, rest)) := by
  fun_induction readArcs text generalizing count with
  | case1 text none =>
      apply loop_halt
      rw [arcsRound, peek_bind, getElem?_place_zero left, any_head?_eq, none]
      rfl
  | case2 text some ends =>
      have round := arcsRound_run left some count
      have progress := place_lt_digits left some
      rw [ends] at round progress
      exact loop_last round progress
  | case3 text some after arcs rest deeper goesOn ih | case4 text some after rest deeper goesOn ih =>
      have behind : Octet.dot :: after <:+ text := goesOn ▸ List.dropWhile_suffix _
      have shorter : after.length < text.length := behind.length_le
      have round := arcsRound_run left some count
      rw [goesOn] at round
      simp only [if_true] at round
      rw [loop_again round (place_lt left shorter) (place_le _ _),
        ih ((List.suffix_cons _ _).trans (behind.trans left)), deeper]
      simp [Except.map, located, Nat.add_assoc, Nat.add_comm 1]
  | case5 text some next after goesOn noDot =>
      have round := arcsRound_run left some count
      have progress := place_lt_digits left some
      rw [goesOn] at round progress
      simp only [if_neg noDot] at round
      exact loop_last round progress

theorem passType_run (left : text <:+ input) :
    passType input (place input text) (place input text) =
      located input ((readBareType text).map fun (_, rest) => ((), rest)) := by
  rw [passType, peek_bind, getElem?_place_zero left]
  cases text with
  | nil => rfl
  | cons first others =>
      simp only [List.head?_cons, readBareType]
      by_cases letter : Octet.isLetter first = true
      · rw [if_pos letter, if_pos letter, passOver_run _ left]
        rfl
      by_cases digit : Octet.isDigit first = true
      · rw [if_neg letter, if_pos digit, if_neg letter, if_pos digit]
        rw [bind_located _ (arcs_run left 0)]
        cases readArcs (first :: others) with
        | error stuck => rfl
        | ok found =>
            simp only [Except.map, Nat.zero_add]
            split <;> rfl
      · rw [if_neg letter, if_neg digit, if_neg letter, if_neg digit]
        rfl

theorem dropOidWord_suffix (dialect : Dialect) (text : List UInt8) :
    dropOidWord dialect text <:+ text := by
  rcases dropOidWord_sound dialect text with same | ⟨word, digit, after, same, _, _, _, dropped⟩
  · exact ⟨[], same⟩
  · rw [dropped, same]
    exact List.suffix_append _ _

theorem walkType_tracks (input : List UInt8) (rules : Rules) :
    Tracks input (walkType input rules) (readType rules.dialect) where
  walks {text} left := by
    have behind := (dropOidWord_suffix rules.dialect text).trans left
    rw [walkType, bind_ok (skipOidWord_run rules left), here_bind,
      bind_located _ (passType_run behind), readType]
    cases read : readBareType (dropOidWord rules.dialect text) with
    | error stuck => rfl
    | ok found =>
        obtain ⟨type, rest⟩ := found
        obtain ⟨same, kind⟩ := readBareType_sound read
        rw [same] at behind ⊢
        simp only [Except.map, here_bind]
        rw [bind_ok (slice_between behind _), Octet.textOf_octetsOf]
        · rfl
        · exact kind.elim IsDescriptor.ascii IsDottedNumber.ascii
  leaves read := by
    obtain ⟨used, rfl, _⟩ := readType_sound read
    exact List.suffix_append _ _

end DirectoryName.Cursor

import DirectoryName.Proofs.Cursor.Type
import DirectoryName.Proofs.Reading.Value
import Mathlib.Data.List.Induction

namespace DirectoryName.Cursor

/-! Values, read with a cursor.

What a buffer holds when a loop is done is what the pieces denote that the reader finds. -/

open Reading

variable {input text rest : List UInt8} {rules : Rules}

namespace Buffer

def push (buffer : Buffer) (piece : Piece) : Buffer where
  octets := buffer.octets ++ [piece.octet]
  nonprintable := buffer.nonprintable || piece.marksNonprintable

/-- The octets and the mark of a sequence of pieces, behind what is there. -/
def extend (buffer : Buffer) (pieces : List Piece) : Buffer :=
  pieces.foldl push buffer

theorem extend_eq (buffer : Buffer) (pieces : List Piece) :
    buffer.extend pieces =
      ⟨buffer.octets ++ pieces.map Piece.octet,
        buffer.nonprintable || pieces.any Piece.marksNonprintable⟩ := by
  induction pieces generalizing buffer with
  | nil => simp [extend]
  | cons piece pieces ih =>
      rw [extend, List.foldl_cons, ← extend, ih]
      simp [push, Bool.or_assoc]

theorem extend_append (buffer : Buffer) (first second : List Piece) :
    buffer.extend (first ++ second) = (buffer.extend first).extend second :=
  List.foldl_append

theorem append_eq_extend (buffer : Buffer) (octets : List UInt8) :
    buffer.append octets = buffer.extend (octets.map .plain) := by
  simp [extend_eq, append, Function.comp_def, Piece.octet, Piece.marksNonprintable]

theorem empty_extend (pieces : List Piece) :
    empty.extend pieces = ⟨pieces.map Piece.octet, pieces.any Piece.marksNonprintable⟩ := by
  rw [extend_eq, empty, List.nil_append, Bool.false_or]

end Buffer

theorem decode_run (octets start rest : List UInt8) (flags : ValueFlags) :
    decode octets flags (place input start) (place input rest) =
      located input
        (match decodeValue octets flags start with
        | .ok value => .ok (value, rest)
        | .error stuck => .error stuck) := by
  unfold decode decodeValue
  cases Utf8.decode octets <;> rfl

theorem walkValueEnd_tracks (input : List UInt8) (rules : Rules) :
    Tracks input (walkValueEnd input rules) fun text => (finishValue rules text).map ((), ·) where
  walks {text} left := by
    have spaces := skipSpaces_tracks input rules .spaceAfterValue
    rw [walkValueEnd, spaces.bind_run left, finishValue]
    cases skipped : skipPadding rules .spaceAfterValue text with
    | error stuck => rfl
    | ok remaining =>
        have behind : remaining <:+ input :=
          (spaces.leaves (by rw [skipped]; rfl)).trans left
        simp only [Except.map, peek_bind, getElem?_place_zero behind]
        cases remaining with
        | nil => rfl
        | cons next rest =>
            simp only [List.head?_cons]
            split <;> rfl
  leaves {text _ rest} read := by
    cases finished : finishValue rules text with
    | error stuck => simp [finished, Except.map] at read
    | ok remaining =>
        simp only [finished, Except.map, Except.ok.injEq, Prod.mk.injEq] at read
        obtain ⟨padding, rfl, _, _⟩ := finishValue_eq_ok_iff.mp finished
        exact read.2 ▸ List.suffix_append _ _

/-! Escapes and pieces. -/

theorem unescape_run {after : List UInt8} (rules : Rules)
    (left : Octet.backslash :: after <:+ input) (buffer : Buffer) :
    unescape input rules buffer (place input (Octet.backslash :: after)) =
      located input ((readEscape rules after).map fun read => (buffer.push read.1, read.2)) := by
  rw [unescape, here_bind, getElem?_place left 1, getElem?_place left 2]
  cases after with
  | nil => rfl
  | cons next rest =>
      have behindNext : place input rest = place input (Octet.backslash :: next :: rest) + 2 :=
        @place_append input rest [Octet.backslash, next] left
      simp only [List.getElem?_cons_succ, List.getElem?_cons_zero, readEscape]
      cases Octet.hexValue? next with
      | some high =>
          cases rest with
          | nil =>
              rw [← behindNext]
              rfl
          | cons last rest =>
              have behindPair : place input rest =
                  place input (Octet.backslash :: next :: last :: rest) + 3 :=
                @place_append input rest [Octet.backslash, next, last] left
              simp only [List.getElem?_cons_zero, Option.bind_some]
              cases Octet.hexValue? last with
              | none =>
                  simp only [← behindNext]
                  rfl
              | some low =>
                  have further : rest <:+ Octet.backslash :: next :: last :: rest :=
                    ⟨[_, _, _], rfl⟩
                  simp only [← behindPair, bind_ok (moveTo_place input further)]
                  rfl
      | none =>
          have further : rest <:+ Octet.backslash :: next :: rest := ⟨[_, _], rfl⟩
          simp only
          split
          · rfl
          · rw [← behindNext, bind_ok (moveTo_place input further)]
            simp [located, Except.map, Buffer.append, Buffer.push, Piece.octet,
              Piece.marksNonprintable]

theorem readEscape_suffix {after remaining : List UInt8} {piece : Piece}
    (read : readEscape rules after = .ok (piece, remaining)) :
    remaining <:+ Octet.backslash :: after := by
  obtain ⟨escape, same, _⟩ := readEscape_eq_ok_iff.mp read
  exact ⟨escape, same.symm⟩

/-- The first octet that stops a run, and the run before it. -/
theorem findIdx?_cases (stops : UInt8 → Bool) (text : List UInt8) :
    (text.findIdx? stops = none ∧ ∀ octet ∈ text, stops octet = false) ∨
      ∃ before stop after, text = before ++ stop :: after ∧
        text.findIdx? stops = some before.length ∧ (∀ octet ∈ before, stops octet = false) ∧
        stops stop = true := by
  induction text with
  | nil => exact .inl ⟨rfl, by simp⟩
  | cons octet text ih =>
      rw [List.findIdx?_cons]
      by_cases stopped : stops octet = true
      · exact .inr ⟨[], octet, text, rfl, if_pos stopped, by simp, stopped⟩
      · rw [Bool.not_eq_true] at stopped
        rcases ih with ⟨none, free⟩ | ⟨before, stop, after, rfl, found, free, stops⟩
        · exact .inl ⟨by simp [stopped, none], by simpa [stopped] using free⟩
        · exact .inr ⟨octet :: before, stop, after, rfl, by simp [stopped, found],
            by simpa [stopped] using free, stops⟩

/-- A round passes over what stands before a quote or a backslash. -/
theorem quotedRound_run (rules : Rules) {plain after : List UInt8} {stop : UInt8}
    (left : plain ++ stop :: after <:+ input)
    (found : (plain ++ stop :: after).findIdx?
      (fun octet => octet == Octet.quote || octet == Octet.backslash) = some plain.length)
    (opening : Nat) (buffer : Buffer) :
    quotedRound input rules opening buffer (place input (plain ++ stop :: after)) =
      quotedStop input rules (buffer.append plain) (place input (stop :: after)) := by
  have cut (cursor : Nat) : slice (plain ++ stop :: after) 0 plain.length cursor =
      .ok (plain, cursor) := by
    rw [slice_run (Nat.zero_le _) (by simp), List.drop_zero, Nat.sub_zero, List.take_left]
  rw [quotedRound, here_bind, bind_ok (slice_place left _), found]
  simp only
  rw [bind_ok (cut _), bind_ok (advance_over left)]

theorem quotedStop_quote {after : List UInt8} (left : Octet.quote :: after <:+ input)
    (buffer : Buffer) :
    quotedStop input rules buffer (place input (Octet.quote :: after)) =
      .ok (.last buffer, place input after) := by
  have under : input[place input (Octet.quote :: after)]? = some Octet.quote :=
    getElem?_place_zero left
  rw [quotedStop, here_bind, bind_ok (octetAt_run under _), if_pos rfl, bind_ok (advance_one left)]
  rfl

theorem quotedStop_backslash {after : List UInt8} (left : Octet.backslash :: after <:+ input)
    (buffer : Buffer) :
    quotedStop input rules buffer (place input (Octet.backslash :: after)) =
      located input
        ((readEscape rules after).map fun read => (.again (buffer.push read.1), read.2)) := by
  have under : input[place input (Octet.backslash :: after)]? = some Octet.backslash :=
    getElem?_place_zero left
  rw [quotedStop, here_bind, bind_ok (octetAt_run under _), if_neg (by decide),
    bind_located _ (unescape_run rules left buffer)]
  cases readEscape rules after <;> rfl

theorem quoted_run (rules : Rules) (start : List UInt8) (left : text <:+ input) (buffer : Buffer) :
    loop input (quotedRound input rules (place input start)) buffer (place input text) =
      located input
        ((readQuotedPieces rules start text).map fun read => (buffer.extend read.1, read.2)) := by
  -- The reader takes one octet at a time and a round a whole run, so the reader's own induction
  -- does not follow the rounds.
  induction size : text.length using Nat.strong_induction_on generalizing text buffer with
  | _ size ih =>
  have spelled {octets : List UInt8} (free : ∀ octet ∈ octets,
      (octet == Octet.quote || octet == Octet.backslash) = false) :
      PiecesSpelling rules [Octet.quote, Octet.backslash] (octets.map .plain) octets :=
    .map_plain fun octet member => by simpa using free octet member
  rcases findIdx?_cases (fun octet => octet == Octet.quote || octet == Octet.backslash) text with
    ⟨none, free⟩ | ⟨plain, stop, after, rfl, found, free, stops⟩
  · have read := @readQuotedPieces_append rules start _ _ (spelled free) []
    rw [List.append_nil] at read
    rw [read, readQuotedPieces]
    apply loop_halt
    rw [quotedRound, here_bind, bind_ok (slice_place left _), none]
    rfl
  have round := quotedRound_run rules left found (place input start) buffer
  have behind : stop :: after <:+ input := (List.suffix_append _ _).trans left
  rw [readQuotedPieces_append (spelled free), readQuotedPieces_cons]
  by_cases quote : stop = Octet.quote
  · subst quote
    rw [quotedStop_quote behind] at round
    have progress : place input (plain ++ Octet.quote :: after) < place input after :=
      place_lt left (by simp only [List.length_append, List.length_cons]; omega)
    rw [if_pos rfl, loop_last round progress, Buffer.append_eq_extend]
    simp only [Except.map, located, List.append_nil]
  · obtain rfl : stop = Octet.backslash := by simpa [quote] using stops
    rw [quotedStop_backslash behind] at round
    rw [if_neg quote, if_pos rfl]
    cases read : readEscape rules after with
    | error stuck =>
        rw [read] at round
        rw [loop_halt round]
        rfl
    | ok found =>
        obtain ⟨piece, remaining⟩ := found
        have shorter : remaining.length < (plain ++ Octet.backslash :: after).length := by
          have := readEscape_shorter read
          simp only [List.length_append, List.length_cons]
          omega
        rw [read] at round
        rw [loop_again round (place_lt left shorter) (place_le _ _),
          ih _ (size ▸ shorter) ((readEscape_suffix read).trans behind) _ rfl]
        simp only [bind, Except.bind]
        cases readQuotedPieces rules start remaining with
        | error stuck => rfl
        | ok found =>
            simp only [Except.map, located, pure, Except.pure, Buffer.append_eq_extend,
              Buffer.extend_append]
            rfl

theorem walkQuotedValue_run (left : Octet.quote :: text <:+ input) :
    walkQuotedValue input rules (place input (Octet.quote :: text)) =
      located input (readQuotedValue rules text) := by
  have inside : text <:+ input := (List.suffix_cons _ _).trans left
  rw [walkQuotedValue, here_bind, bind_ok (advance_one left),
    bind_located _ (quoted_run rules (Octet.quote :: text) inside .empty), readQuotedValue,
    ← place_cons left]
  cases read : readQuotedPieces rules (Octet.quote :: text) text with
  | error stuck => rfl
  | ok found =>
      obtain ⟨found, after⟩ := found
      obtain ⟨inner, same, _⟩ := readQuotedPieces_sound read
      have behind : after <:+ input := by
        refine List.IsSuffix.trans ⟨inner ++ [Octet.quote], ?_⟩ inside
        rw [same, List.append_assoc, List.singleton_append]
      simp only [Except.map, (walkValueEnd_tracks input rules).bind_run behind,
        Buffer.empty_extend]
      cases finishValue rules after with
      | error stuck => rfl
      | ok rest => exact decode_run _ _ _ _

/-! Hexadecimal strings. -/

theorem hexOctetsFrom_cases (index : Nat) (digits : List UInt8) :
    (∃ octets, hexOctets digits = .ok octets ∧ hexOctetsFrom index digits = .ok octets) ∨
      ∃ wrong used rest, digits = used ++ rest ∧ hexOctets digits = .error (wrong, rest) ∧
        hexOctetsFrom index digits = .error (wrong, index + used.length) := by
  fun_induction hexOctets digits generalizing index with
  | case1 high low rest none => exact .inr ⟨high, [], _, rfl, rfl, by simp [hexOctetsFrom, none]⟩
  | case2 high low rest value none found =>
      exact .inr ⟨low, [high], _, rfl, rfl, by simp [hexOctetsFrom, none, found]⟩
  | case3 high low rest highValue lowValue lowFound highFound octets deeper ih =>
      rcases ih (index + 2) with ⟨others, same, shifted⟩ | ⟨wrong, used, behind, _, stopped, _⟩
      · cases deeper.symm.trans same
        exact .inl ⟨_, rfl, by simp only [hexOctetsFrom, highFound, lowFound, shifted]⟩
      · cases deeper.symm.trans stopped
  | case4 high low rest highValue lowValue lowFound highFound stopped deeper ih =>
      rcases ih (index + 2) with ⟨others, same, _⟩ | ⟨wrong, used, behind, rfl, same, shifted⟩
      · cases deeper.symm.trans same
      · cases deeper.symm.trans same
        have sum : index + 2 + used.length = index + (high :: low :: used).length := by
          simp only [List.length_cons]
          omega
        refine .inr ⟨wrong, high :: low :: used, behind, rfl, rfl, ?_⟩
        simp only [hexOctetsFrom, highFound, lowFound, shifted, sum]
  | case5 digits short =>
      refine .inl ⟨[], rfl, ?_⟩
      unfold hexOctetsFrom
      split
      · next high low rest => exact absurd rfl (short high low rest)
      · rfl

theorem walkHexValue_run (left : Octet.hash :: text <:+ input) :
    walkHexValue input rules (place input (Octet.hash :: text)) =
      located input (readHexValue rules text) := by
  have inside : text <:+ input := (List.suffix_cons _ _).trans left
  have behind : text.dropWhile (isHexStringOctet rules.dialect) <:+ input :=
    (List.dropWhile_suffix _).trans inside
  have split : text.takeWhile (isHexStringOctet rules.dialect) ++
      text.dropWhile (isHexStringOctet rules.dialect) = text := List.takeWhile_append_dropWhile
  have stop (cursor : Nat) : aside (place input text)
      (passOver input (isHexStringOctet rules.dialect)) cursor =
        .ok (place input (text.dropWhile (isHexStringOctet rules.dialect)), cursor) := by
    rw [aside, passOver_run _ inside]
  have digits (cursor : Nat) := @slice_between input
    (text.dropWhile (isHexStringOctet rules.dialect))
    (text.takeWhile (isHexStringOctet rules.dialect)) (by rwa [split]) cursor
  rw [split] at digits
  rw [walkHexValue, here_bind, ← place_cons left]
  simp only [bind_ok (stop _), bind_ok (digits _), readHexValue]
  by_cases none : (text.takeWhile (isHexStringOctet rules.dialect)).isEmpty = true
  · rw [if_pos none, if_pos none]
    rfl
  by_cases odd : (text.takeWhile (isHexStringOctet rules.dialect)).length % 2 = 1
  · rw [if_neg none, if_pos odd, if_neg none, if_pos odd]
    rfl
  rw [if_neg none, if_neg odd, if_neg none, if_neg odd]
  rcases hexOctetsFrom_cases 0 (text.takeWhile (isHexStringOctet rules.dialect)) with
    ⟨octets, read, walked⟩ | ⟨wrong, used, rest, cut, read, walked⟩
  · have further : text.dropWhile (isHexStringOctet rules.dialect) <:+ Octet.hash :: text :=
      (List.dropWhile_suffix _).trans (List.suffix_cons _ _)
    rw [read, walked]
    simp only [bind_ok (moveTo_place input further)]
    rw [(walkValueEnd_tracks input rules).bind_run behind]
    cases finishValue rules (text.dropWhile (isHexStringOctet rules.dialect)) with
    | error stuck => rfl
    | ok rest => exact decode_run _ _ _ _
  · have wrongPlace : place input (rest ++ text.dropWhile (isHexStringOctet rules.dialect)) =
        place input text + used.length := by
      rw [cut, List.append_assoc] at split
      have sum := place_append (split.symm ▸ inside)
      rwa [split] at sum
    rw [read, walked, Nat.zero_add]
    simp only [← wrongPlace]
    rfl

/-! Plain text. -/

theorem finalSpaces_reverse (pieces : List Piece) :
    (Piece.finalSpaces pieces).reverse = Piece.finalSpaces pieces := by
  rw [Piece.finalSpaces_eq, ← List.map_reverse, List.reverse_replicate]

/-- The pieces that stay where a value ends. -/
def kept (rules : Rules) (pieces : List Piece) : List Piece :=
  if rules.dialect.padsWithSpaces then Piece.beforeFinalSpaces pieces else pieces

/-- The pieces that are cut off there. -/
def cutOff (rules : Rules) (pieces : List Piece) : List Piece :=
  if rules.dialect.padsWithSpaces then Piece.finalSpaces pieces else []

theorem kept_append_cutOff (rules : Rules) (pieces : List Piece) :
    kept rules pieces ++ cutOff rules pieces = pieces := by
  unfold kept cutOff
  split
  · rw [← finalSpaces_reverse]
    exact Piece.beforeFinalSpaces_append pieces
  · exact List.append_nil pieces

theorem any_cutOff (rules : Rules) (pieces : List Piece) :
    (cutOff rules pieces).any Piece.marksNonprintable = false := by
  unfold cutOff
  split
  · rw [Piece.finalSpaces_eq]
    simp [Piece.marksNonprintable]
  · rfl

theorem length_kept_add (rules : Rules) (pieces : List Piece) :
    (kept rules pieces).length + (cutOff rules pieces).length = pieces.length := by
  rw [← List.length_append, kept_append_cutOff]

theorem take_length_kept (rules : Rules) (pieces : List Piece) :
    pieces.take (kept rules pieces).length = kept rules pieces := by
  have front := List.prefix_append (kept rules pieces) (cutOff rules pieces)
  rw [kept_append_cutOff] at front
  exact (List.prefix_iff_eq_take.mp front).symm

theorem any_kept (rules : Rules) (pieces : List Piece) :
    (kept rules pieces).any Piece.marksNonprintable = pieces.any Piece.marksNonprintable := by
  have both := @List.any_append _ Piece.marksNonprintable (kept rules pieces) (cutOff rules pieces)
  rwa [kept_append_cutOff, any_cutOff, Bool.or_false, eq_comm] at both

namespace PlainBuffer

def push (rules : Rules) (state : PlainBuffer) (piece : Piece) : PlainBuffer where
  buffer := state.buffer.push piece
  keep := if piece.isPlainSpace ∧ rules.dialect.padsWithSpaces = true then state.keep
    else state.buffer.octets.length + 1

def extend (rules : Rules) (state : PlainBuffer) (pieces : List Piece) : PlainBuffer :=
  pieces.foldl (push rules) state

theorem extend_buffer (rules : Rules) (state : PlainBuffer) (pieces : List Piece) :
    (state.extend rules pieces).buffer = state.buffer.extend pieces := by
  induction pieces generalizing state with
  | nil => rfl
  | cons piece pieces ih => exact ih (state.push rules piece)

theorem push_escape {after rest : List UInt8} {piece : Piece}
    (read : readEscape rules after = .ok (piece, rest)) (state : PlainBuffer) :
    state.push rules piece =
      ⟨state.buffer.push piece, (state.buffer.push piece).octets.length⟩ := by
  obtain ⟨escape, _, spelled⟩ := readEscape_eq_ok_iff.mp read
  have noSpace : ¬piece.isPlainSpace = true := by
    rw [Piece.isPlainSpace_iff]
    exact spelled.ne_plain _
  rw [push, if_neg (fun both => noSpace both.1), Buffer.push, List.length_append]
  rfl

theorem push_plain (octet : UInt8) (state : PlainBuffer) :
    (if octet = Octet.space ∧ rules.dialect.padsWithSpaces = true then
      ⟨state.buffer.append [octet], state.keep⟩
    else ⟨state.buffer.append [octet], (state.buffer.append [octet]).octets.length⟩) =
      state.push rules (.plain octet) := by
  simp only [push, Buffer.push, Buffer.append, Piece.octet, Piece.marksNonprintable,
    Piece.isPlainSpace_iff, Piece.plain.injEq, Bool.or_false, List.length_append,
    List.length_singleton]
  split <;> rfl

theorem keep_extend (rules : Rules) (pieces : List Piece) :
    (extend rules ⟨.empty, 0⟩ pieces).keep = (kept rules pieces).length := by
  induction pieces using List.reverseRecOn with
  | nil => simp [extend, kept, Piece.beforeFinalSpaces]
  | append_singleton pieces piece ih =>
      have pushed : extend rules ⟨.empty, 0⟩ (pieces ++ [piece]) =
          (extend rules ⟨.empty, 0⟩ pieces).push rules piece := by
        simp [extend]
      rw [pushed, push, ih, extend_buffer, Buffer.empty_extend]
      by_cases space : piece.isPlainSpace = true <;>
        by_cases padded : rules.dialect.padsWithSpaces = true <;>
          simp [space, padded, kept, Piece.beforeFinalSpaces]

end PlainBuffer

theorem plainRound_plain {octet : UInt8} {after : List UInt8} (left : octet :: after <:+ input)
    (inside : ¬rules.dialect.endsValue octet = true) (noBackslash : octet ≠ Octet.backslash)
    (free : bareFault? rules.dialect octet = none) (state : PlainBuffer) :
    plainRound input rules state (place input (octet :: after)) =
      .ok (.again (state.push rules (.plain octet)), place input after) := by
  rw [plainRound, peek_bind, getElem?_place_zero left, ← PlainBuffer.push_plain]
  simp only [List.head?_cons, if_neg inside, if_neg noBackslash, free, bind_ok (advance_one left)]
  split <;> rfl

theorem plainRound_escape {after : List UInt8} (left : Octet.backslash :: after <:+ input)
    (inside : ¬rules.dialect.endsValue Octet.backslash = true) (state : PlainBuffer) :
    plainRound input rules state (place input (Octet.backslash :: after)) =
      located input
        ((readEscape rules after).map fun read => (.again (state.push rules read.1), read.2)) := by
  rw [plainRound, peek_bind, getElem?_place_zero left]
  simp only [List.head?_cons, if_neg inside, if_true, bind_located _ (unescape_run rules left _)]
  cases read : readEscape rules after with
  | error stuck => rfl
  | ok found =>
      simp only [Except.map, located, PlainBuffer.push_escape read]
      rfl

theorem plain_run (rules : Rules) (left : text <:+ input) (state : PlainBuffer) :
    loop input (plainRound input rules) state (place input text) =
      located input
        ((readPlainPieces rules text).map fun read => (state.extend rules read.1, read.2)) := by
  fun_induction readPlainPieces rules text generalizing state with
  | case1 =>
      apply loop_over
      rw [plainRound, peek_bind, getElem?_place_zero left]
      rfl
  | case2 octet after ends =>
      apply loop_over
      rw [plainRound, peek_bind, getElem?_place_zero left]
      simp only [List.head?_cons, if_pos ends]
      rfl
  | case3 after stuck read inside =>
      have round := plainRound_escape left inside state
      rw [read] at round
      exact loop_halt round
  | case4 after piece remaining read pieces rest deeper inside ih
  | case5 after piece remaining read stuck deeper inside ih =>
      have round := plainRound_escape left inside state
      have shorter := readEscape_shorter read
      rw [read] at round
      rw [loop_again round (place_lt left (Nat.lt_succ_of_lt shorter)) (place_le _ _),
        ih ((readEscape_suffix read).trans left), deeper]
      rfl
  | case6 octet after ends noBackslash fault bare =>
      apply loop_halt
      rw [plainRound, peek_bind, getElem?_place_zero left]
      simp only [List.head?_cons, if_neg ends, if_neg noBackslash, bare]
      rfl
  | case7 octet after ends noBackslash free more rest deeper ih
  | case8 octet after ends noBackslash free stuck deeper ih =>
      rw [loop_again (plainRound_plain left ends noBackslash free state)
        (place_lt left (by simp)) (place_le _ _), ih ((List.suffix_cons _ _).trans left), deeper]
      rfl

theorem readPlainValue_eq {pieces : List Piece}
    (read : readPlainPieces rules text = .ok (pieces, rest)) :
    readPlainValue rules text =
      if 0 < (cutOff rules pieces).length ∧ rules.strictness.noEdgeSpaces = true then
        .error ⟨.spaceAfterValue, (cutOff rules pieces).map Piece.octet ++ rest⟩
      else readPlainValue.finish text (kept rules pieces) rest := by
  have all := kept_append_cutOff rules pieces
  rw [readPlainValue, read]
  unfold kept cutOff at all ⊢
  by_cases padded : rules.dialect.padsWithSpaces = true
  · rw [if_pos padded, if_pos padded] at all
    cases spaces : Piece.finalSpaces pieces with
    | nil =>
        rw [spaces, List.append_nil] at all
        simp [padded, spaces, all]
    | cons space spaces => simp [padded, spaces]
  · simp [padded]

/-- What was cut off is what the value ends with. -/
theorem cutOff_suffix {pieces : List Piece} {used : List UInt8}
    (spelled : PiecesSpelling rules rules.dialect.reserved pieces used) :
    (cutOff rules pieces).map Piece.octet <:+ used := by
  unfold cutOff
  split
  · obtain ⟨before, rfl, _⟩ := spelled.beforeFinalSpaces
    exact List.suffix_append _ _
  · exact List.nil_suffix

theorem walkPlainValue_run (left : text <:+ input) :
    walkPlainValue input rules (place input text) =
      located input (readPlainValue rules text) := by
  rw [walkPlainValue, here_bind, bind_located _ (plain_run rules left ⟨.empty, 0⟩)]
  cases read : readPlainPieces rules text with
  | error stuck =>
      rw [readPlainValue, read]
      rfl
  | ok found =>
      obtain ⟨found, rest⟩ := found
      obtain ⟨used, same, spelled, _⟩ := readPlainPieces_sound read
      have total := length_kept_add rules found
      have spaces : (cutOff rules found).map Piece.octet ++ rest <:+ input := by
        obtain ⟨before, cut⟩ := cutOff_suffix spelled
        refine List.IsSuffix.trans ⟨before, ?_⟩ left
        rw [← List.append_assoc, cut, same]
      have offset := place_append spaces
      simp only [Except.map, PlainBuffer.extend_buffer, Buffer.empty_extend,
        PlainBuffer.keep_extend]
      rw [bind_ok (difference_run (by simp [← total]) _), List.length_map, ← total,
        Nat.add_sub_cancel_left, readPlainValue_eq read]
      rw [List.length_map] at offset
      split
      · rw [here_bind, bind_ok (difference_run (by omega) _), offset, Nat.add_sub_cancel]
        rfl
      · rw [← List.map_take, take_length_kept, ← any_kept rules found]
        exact decode_run _ _ _ _

theorem walkValue_tracks (input : List UInt8) (rules : Rules) :
    Tracks input (walkValue input rules) (readValue rules) where
  walks {text} left := by
    rw [walkValue, peek_bind, getElem?_place_zero left]
    cases text with
    | nil => exact walkPlainValue_run left
    | cons first after =>
        simp only [List.head?_cons, readValue]
        by_cases hash : first = Octet.hash
        · subst hash
          exact walkHexValue_run left
        by_cases quote : first = Octet.quote
        · subst quote
          rw [if_neg hash, if_pos rfl, if_neg hash, if_pos rfl]
          cases rules.dialect with
          | lenient => exact walkQuotedValue_run left
          | strictV3 => rfl
          | dce => exact walkPlainValue_run left
        · rw [if_neg hash, if_neg quote, if_neg hash, if_neg quote]
          exact walkPlainValue_run left
  leaves {text value rest} read := by
    have plain (read : readPlainValue rules text = .ok (value, rest)) : rest <:+ text := by
      obtain ⟨_, used, padding, same, _⟩ := readPlainValue_sound read
      exact ⟨used ++ padding, by rw [same, List.append_assoc]⟩
    unfold readValue at read
    split at read
    · exact plain read
    split at read
    · next hash =>
        obtain ⟨used, padding, same, _⟩ := readHexValue_sound read
        exact ⟨used ++ padding, by rw [hash, same, List.append_assoc]⟩
    split at read
    · next quote =>
        split at read
        · next lenient =>
            obtain ⟨used, padding, same, _⟩ := readQuotedValue_sound lenient read
            exact ⟨used ++ padding, by rw [quote, same, List.append_assoc]⟩
        · cases read
        · exact plain read
    · exact plain read

end DirectoryName.Cursor

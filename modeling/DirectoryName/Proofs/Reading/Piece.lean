import DirectoryName.Proofs.Reading.Basic

namespace DirectoryName

/-! The pieces of a value: plain octets, escapes and pairs of digits.

The pieces that a reader finds are the ones that spell what it passed over. -/

namespace Piece

theorem marksNonprintable_iff (piece : Piece) :
    piece.marksNonprintable = true ↔
      ∃ octet, piece = .pair octet ∧ ¬(0x20 ≤ octet ∧ octet ≤ 0x7E) := by
  cases piece with
  | plain octet => simp [marksNonprintable]
  | escaped octet => simp [marksNonprintable]
  | pair octet =>
      simp only [marksNonprintable, Bool.not_eq_true', ← Bool.not_eq_true, Octet.isPrintable_iff,
        Piece.pair.injEq, exists_eq_left']

theorem flagsOf_iff {pieces : List Piece} {flags : ValueFlags} :
    FlagsOf pieces flags ↔ flags = Piece.flags pieces := by
  have marked : pieces.any marksNonprintable = true ↔
      ∃ octet, Piece.pair octet ∈ pieces ∧ ¬(0x20 ≤ octet ∧ octet ≤ 0x7E) := by
    simp only [List.any_eq_true, marksNonprintable_iff]
    constructor
    · intro found
      obtain ⟨_, member, octet, rfl, outside⟩ := found
      exact ⟨octet, member, outside⟩
    · intro found
      obtain ⟨octet, member, outside⟩ := found
      exact ⟨_, member, octet, rfl, outside⟩
  have unmarked : (∀ octet, Piece.pair octet ∈ pieces → 0x20 ≤ octet ∧ octet ≤ 0x7E) ↔
      ¬pieces.any marksNonprintable = true := by
    rw [marked]
    grind
  rw [FlagsOf, unmarked, ← marked, Piece.flags]
  by_cases any : pieces.any marksNonprintable = true
  · simp [any]
  · simp [any]

theorem isPlainSpace_iff (piece : Piece) :
    piece.isPlainSpace = true ↔ piece = .plain Octet.space :=
  beq_iff_eq

theorem beforeFinalSpaces_append (pieces : List Piece) :
    beforeFinalSpaces pieces ++ (finalSpaces pieces).reverse = pieces := by
  rw [beforeFinalSpaces, finalSpaces, ← List.reverse_append, List.takeWhile_append_dropWhile,
    List.reverse_reverse]

theorem finalSpaces_eq (pieces : List Piece) :
    finalSpaces pieces =
      (List.replicate (finalSpaces pieces).length Octet.space).map .plain := by
  rw [List.map_replicate, List.eq_replicate_iff]
  exact ⟨rfl, fun piece member =>
    (isPlainSpace_iff piece).mp (List.mem_takeWhile_imp member)⟩

theorem map_octet_finalSpaces (pieces : List Piece) :
    (finalSpaces pieces).map octet =
      List.replicate (finalSpaces pieces).length Octet.space := by
  rw [finalSpaces_eq, List.map_map, List.length_map, List.length_replicate]
  exact List.map_id _

theorem finalSpaces_ne_nil {pieces : List Piece}
    (last : pieces.getLast? = some (.plain Octet.space)) : finalSpaces pieces ≠ [] := by
  rw [← List.head?_reverse] at last
  obtain ⟨others, reversed⟩ := List.head?_eq_some_iff.mp last
  rw [finalSpaces, reversed, List.takeWhile_cons_of_pos rfl]
  exact List.cons_ne_nil _ _

theorem getLast?_beforeFinalSpaces (pieces : List Piece) :
    (beforeFinalSpaces pieces).getLast? ≠ some (.plain Octet.space) := by
  rw [beforeFinalSpaces, List.getLast?_reverse]
  intro found
  have stopped := List.head?_dropWhile_not isPlainSpace pieces.reverse
  rw [found] at stopped
  exact absurd stopped (by decide)

/-- Spaces after something else are the final spaces. -/
theorem finalSpaces_append {pieces : List Piece} (count : Nat)
    (last : pieces.getLast? ≠ some (.plain Octet.space)) :
    finalSpaces (pieces ++ (List.replicate count Octet.space).map .plain) =
        (List.replicate count Octet.space).map .plain ∧
      beforeFinalSpaces (pieces ++ (List.replicate count Octet.space).map .plain) = pieces := by
  have spaces : ∀ piece ∈ List.replicate count (plain Octet.space),
      isPlainSpace piece = true := by
    intro piece member
    rw [List.eq_of_mem_replicate member]
    rfl
  have stops : Reading.Follows (isPlainSpace · = false) pieces.reverse := by
    intro piece member
    rw [List.head?_reverse, Option.mem_def] at member
    rw [← Bool.not_eq_true, isPlainSpace_iff]
    intro space
    subst space
    exact last member
  rw [finalSpaces, beforeFinalSpaces, List.map_replicate, List.reverse_append,
    List.reverse_replicate, Reading.takeWhile_of_follows spaces stops,
    Reading.dropWhile_of_follows spaces stops, List.reverse_reverse]
  exact ⟨rfl, rfl⟩

end Piece

theorem HexSpelling.even {octets digits : List UInt8} (spelled : HexSpelling octets digits) :
    digits.length % 2 = 0 := by
  induction spelled with
  | nil => rfl
  | cons _ _ _ ih =>
      simp only [List.length_cons]
      omega

theorem HexSpelling.eq_nil_iff {octets digits : List UInt8} (spelled : HexSpelling octets digits) :
    digits = [] ↔ octets = [] := by
  cases spelled <;> simp

theorem HexSpelling.isKeyOctet {octets digits : List UInt8} (spelled : HexSpelling octets digits) :
    ∀ digit ∈ digits, Octet.isKeyOctet digit = true := by
  induction spelled with
  | nil => simp
  | cons highDigit lowDigit _ ih =>
      simp only [List.forall_mem_cons]
      exact ⟨Octet.HexDigit.isKeyOctet highDigit, Octet.HexDigit.isKeyOctet lowDigit, ih⟩

theorem EscapeSpelling.ne_plain {rules : Rules} {piece : Piece} {text : List UInt8}
    (spelled : EscapeSpelling rules piece text) (octet : UInt8) : piece ≠ .plain octet := by
  cases spelled <;> exact fun same => by cases same

namespace PiecesSpelling

variable {rules : Rules} {reserved : List UInt8} {text : List UInt8}

theorem append {first second : List Piece} {firstText secondText : List UInt8}
    (firstSpelled : PiecesSpelling rules reserved first firstText)
    (secondSpelled : PiecesSpelling rules reserved second secondText) :
    PiecesSpelling rules reserved (first ++ second) (firstText ++ secondText) := by
  induction firstSpelled with
  | nil => exact secondSpelled
  | plain free _ ih => exact .plain free ih
  | escape first _ ih =>
      rw [List.append_assoc]
      exact .escape first ih

theorem of_append {first second : List Piece}
    (spelled : PiecesSpelling rules reserved (first ++ second) text) :
    ∃ firstText secondText, text = firstText ++ secondText ∧
      PiecesSpelling rules reserved first firstText ∧
      PiecesSpelling rules reserved second secondText := by
  induction first generalizing text with
  | nil => exact ⟨[], text, rfl, .nil, spelled⟩
  | cons piece first ih =>
      cases spelled with
      | plain free rest =>
          obtain ⟨firstText, secondText, rfl, firstSpelled, secondSpelled⟩ := ih rest
          exact ⟨_, secondText, rfl, .plain free firstSpelled, secondSpelled⟩
      | escape escape rest =>
          obtain ⟨firstText, secondText, rfl, firstSpelled, secondSpelled⟩ := ih rest
          exact ⟨_, secondText, (List.append_assoc _ _ _).symm, .escape escape firstSpelled,
            secondSpelled⟩

/-- Plain pieces are spelled by their octets. -/
theorem of_map_plain {octets : List UInt8}
    (spelled : PiecesSpelling rules reserved (octets.map .plain) text) : text = octets := by
  induction octets generalizing text with
  | nil => cases spelled; rfl
  | cons octet octets ih =>
      cases spelled with
      | plain _ rest => rw [ih rest]
      | escape escape _ => exact absurd rfl (escape.ne_plain octet)

theorem map_plain {octets : List UInt8} (free : ∀ octet ∈ octets, octet ∉ reserved) :
    PiecesSpelling rules reserved (octets.map .plain) octets := by
  induction octets with
  | nil => exact .nil
  | cons octet octets ih =>
      rw [List.forall_mem_cons] at free
      exact .plain free.1 (ih free.2)

/-- A first piece that stands for itself is the first octet; a first escape begins with
its backslash. -/
theorem head {piece : Piece} {pieces : List Piece}
    (spelled : PiecesSpelling rules reserved (piece :: pieces) text) :
    (∃ octet, piece = .plain octet ∧ octet ∉ reserved ∧ text.head? = some octet) ∨
      (∀ octet, piece ≠ .plain octet) ∧ text.head? = some Octet.backslash := by
  cases spelled with
  | plain free rest => exact .inl ⟨_, rfl, free, rfl⟩
  | escape escape rest =>
      refine .inr ⟨escape.ne_plain, ?_⟩
      cases escape <;> rfl

/-- What plain text begins with, its spelling begins with. -/
theorem head?_of_plain {pieces : List Piece} {octet : UInt8}
    (spelled : PiecesSpelling rules reserved pieces text)
    (begins : pieces.head? = some (.plain octet)) : text.head? = some octet := by
  cases pieces with
  | nil => cases begins
  | cons piece pieces =>
      rw [List.head?_cons, Option.some.injEq] at begins
      rcases spelled.head with ⟨other, same, _, head⟩ | ⟨noPlain, _⟩
      · rw [begins, Piece.plain.injEq] at same
        rw [head, same]
      · exact absurd begins (noPlain octet)

/-- The final spaces of plain text stand at the end of its spelling. -/
theorem beforeFinalSpaces {pieces : List Piece}
    (spelled : PiecesSpelling rules reserved pieces text) :
    ∃ before, text = before ++ (Piece.finalSpaces pieces).map Piece.octet ∧
      PiecesSpelling rules reserved (Piece.beforeFinalSpaces pieces) before := by
  rw [← Piece.beforeFinalSpaces_append pieces, Piece.finalSpaces_eq, ← List.map_reverse,
    List.reverse_replicate] at spelled
  obtain ⟨before, spaces, rfl, beforeSpelled, spacesSpelled⟩ := spelled.of_append
  refine ⟨before, ?_, beforeSpelled⟩
  rw [spacesSpelled.of_map_plain, Piece.map_octet_finalSpaces]

end PiecesSpelling

theorem mem_protectable_iff (dialect : Dialect) (octet : UInt8) :
    octet ∈ dialect.protectable ↔ dialect.needsEscape octet = true ∨ octet = 0 := by
  cases dialect <;>
    simp only [Dialect.protectable, Dialect.needsEscape, List.contains_iff_mem, List.mem_cons,
      List.not_mem_nil, or_false, or_assoc]

namespace Reading

/-- An escape is read exactly as it is spelled. -/
theorem readEscape_eq_ok_iff {rules : Rules} {text rest : List UInt8} {piece : Piece} :
    readEscape rules text = .ok (piece, rest) ↔
      ∃ escape, Octet.backslash :: text = escape ++ rest ∧ EscapeSpelling rules piece escape := by
  constructor
  · intro read
    unfold readEscape at read
    split at read
    · cases read
    next next after =>
    split at read
    · next high highFound =>
        split at read
        · cases read
        next last after =>
        split at read
        · next low lowFound =>
            cases read
            exact ⟨[_, next, last], rfl, .pair (Octet.hexValue?_eq_some_iff.mp highFound)
              (Octet.hexValue?_eq_some_iff.mp lowFound)⟩
        · cases read
    · next noDigit =>
        split at read
        · cases read
        · next needful =>
            cases read
            refine ⟨[_, next], rfl, .escaped next (Octet.hexValue?_eq_none_iff.mp noDigit) ?_⟩
            rw [mem_protectable_iff]
            grind
  · intro found
    obtain ⟨escape, same, spelled⟩ := found
    cases spelled with
    | escaped octet noDigit needful =>
        simp only [List.cons_append, List.nil_append, List.cons.injEq, true_and] at same
        subst same
        have lax : ¬(rules.strictness.needfulEscapesOnly &&
            !(rules.dialect.needsEscape octet || octet == 0)) = true := by
          rw [mem_protectable_iff] at needful
          grind
        simp only [readEscape, Octet.hexValue?_eq_none_iff.mpr noDigit]
        exact if_neg lax
    | pair highDigit lowDigit =>
        simp only [List.cons_append, List.nil_append, List.cons.injEq, true_and] at same
        subst same
        simp only [readEscape, Octet.hexValue?_eq_some_iff.mpr highDigit,
          Octet.hexValue?_eq_some_iff.mpr lowDigit]
        rfl

theorem readEscape_of_spelled {rules : Rules} {escape : List UInt8} {piece : Piece}
    (spelled : EscapeSpelling rules piece escape) :
    ∃ after, escape = Octet.backslash :: after ∧
      ∀ rest, readEscape rules (after ++ rest) = .ok (piece, rest) := by
  obtain ⟨after, rfl⟩ : ∃ after, escape = Octet.backslash :: after := by
    cases spelled <;> exact ⟨_, rfl⟩
  exact ⟨after, rfl, fun rest => readEscape_eq_ok_iff.mpr ⟨_, rfl, spelled⟩⟩

/-! What the readers of pieces do with one octet, without the proofs that their termination
needs. -/

theorem readQuotedPieces_cons (rules : Rules) (start : List UInt8) (octet : UInt8)
    (after : List UInt8) :
    readQuotedPieces rules start (octet :: after) =
      if octet = Octet.quote then .ok ([], after)
      else if octet = Octet.backslash then do
        let (piece, remaining) ← readEscape rules after
        let (pieces, rest) ← readQuotedPieces rules start remaining
        return (piece :: pieces, rest)
      else do
        let (pieces, rest) ← readQuotedPieces rules start after
        return (.plain octet :: pieces, rest) := by
  rw [readQuotedPieces]
  split
  · rfl
  split
  · split
    · next escape =>
        rw [escape]
        rfl
    · next remaining escape =>
        simp only [escape, bind, Except.bind]
        cases readQuotedPieces rules start remaining <;> rfl
  · cases readQuotedPieces rules start after <;> rfl

theorem readPlainPieces_cons (rules : Rules) (octet : UInt8) (after : List UInt8) :
    readPlainPieces rules (octet :: after) =
      if rules.dialect.endsValue octet then .ok ([], octet :: after)
      else if octet = Octet.backslash then do
        let (piece, remaining) ← readEscape rules after
        let (pieces, rest) ← readPlainPieces rules remaining
        return (piece :: pieces, rest)
      else
        match bareFault? rules.dialect octet with
        | some fault => .error ⟨fault, octet :: after⟩
        | none => do
            let (pieces, rest) ← readPlainPieces rules after
            return (.plain octet :: pieces, rest) := by
  rw [readPlainPieces]
  split
  · rfl
  split
  · split
    · next escape =>
        rw [escape]
        rfl
    · next remaining escape =>
        simp only [escape, bind, Except.bind]
        cases readPlainPieces rules remaining <;> rfl
  · cases bareFault? rules.dialect octet with
    | some fault => rfl
    | none => cases readPlainPieces rules after <;> rfl

theorem readQuotedPieces_sound {rules : Rules} {start text rest : List UInt8}
    {pieces : List Piece} (read : readQuotedPieces rules start text = .ok (pieces, rest)) :
    ∃ inner, text = inner ++ Octet.quote :: rest ∧
      PiecesSpelling rules [Octet.quote, Octet.backslash] pieces inner := by
  fun_induction readQuotedPieces rules start text generalizing pieces with
  | case1 => cases read
  | case2 =>
      cases read
      exact ⟨[], rfl, .nil⟩
  | case3 => cases read
  | case4 after piece remaining escape more tail deeper _ ih =>
      cases read
      obtain ⟨spelling, same, first⟩ := readEscape_eq_ok_iff.mp escape
      obtain ⟨inner, rfl, others⟩ := ih deeper
      exact ⟨spelling ++ inner, by rw [same, List.append_assoc], .escape first others⟩
  | case5 => cases read
  | case6 octet after noQuote noBackslash more tail deeper ih =>
      cases read
      obtain ⟨inner, rfl, others⟩ := ih deeper
      exact ⟨octet :: inner, rfl, .plain (by simp [noQuote, noBackslash]) others⟩
  | case7 => cases read

/-- What spells pieces is passed over, whatever stands after it. -/
theorem readQuotedPieces_append {rules : Rules} {start inner : List UInt8} {pieces : List Piece}
    (spelled : PiecesSpelling rules [Octet.quote, Octet.backslash] pieces inner)
    (rest : List UInt8) :
    readQuotedPieces rules start (inner ++ rest) =
      (readQuotedPieces rules start rest).map fun read => (pieces ++ read.1, read.2) := by
  induction spelled with
  | nil =>
      rw [List.nil_append]
      cases readQuotedPieces rules start rest <;> rfl
  | plain free _ ih =>
      simp only [List.mem_cons, List.not_mem_nil, or_false, not_or] at free
      rw [List.cons_append, readQuotedPieces_cons, if_neg free.1, if_neg free.2, ih]
      cases readQuotedPieces rules start rest <;> rfl
  | @escape piece pieces escape text first _ ih =>
      obtain ⟨after, rfl, read⟩ := readEscape_of_spelled first
      rw [List.append_assoc, List.cons_append, readQuotedPieces_cons, if_neg (by decide),
        if_pos rfl, read]
      simp only [bind, Except.bind, ih]
      cases readQuotedPieces rules start rest <;> rfl

theorem readQuotedPieces_complete {rules : Rules} {start inner rest : List UInt8}
    {pieces : List Piece}
    (spelled : PiecesSpelling rules [Octet.quote, Octet.backslash] pieces inner) :
    readQuotedPieces rules start (inner ++ Octet.quote :: rest) = .ok (pieces, rest) := by
  rw [readQuotedPieces_append spelled, readQuotedPieces_cons, if_pos rfl]
  simp only [Except.map, List.append_nil]

theorem not_mem_reserved_iff (dialect : Dialect) (octet : UInt8) :
    octet ∉ dialect.reserved ↔
      dialect.endsValue octet = false ∧ octet ≠ Octet.backslash ∧
        bareFault? dialect octet = none := by
  cases dialect <;>
    simp only [Dialect.reserved, Dialect.endsValue, bareFault?, List.mem_cons, List.not_mem_nil,
      or_false] <;>
    grind

theorem readPlainPieces_sound {rules : Rules} {text rest : List UInt8} {pieces : List Piece}
    (read : readPlainPieces rules text = .ok (pieces, rest)) :
    ∃ used, text = used ++ rest ∧ PiecesSpelling rules rules.dialect.reserved pieces used ∧
      Follows (rules.dialect.endsValue · = true) rest := by
  fun_induction readPlainPieces rules text generalizing pieces with
  | case1 =>
      cases read
      exact ⟨[], rfl, .nil, follows_nil _⟩
  | case2 octet after ends =>
      cases read
      exact ⟨[], rfl, .nil, (follows_cons _ _ _).mpr ends⟩
  | case3 => cases read
  | case4 after piece remaining escape more tail deeper _ ih =>
      cases read
      obtain ⟨spelling, same, first⟩ := readEscape_eq_ok_iff.mp escape
      obtain ⟨used, rfl, others, follows⟩ := ih deeper
      exact ⟨spelling ++ used, by rw [same, List.append_assoc], .escape first others, follows⟩
  | case5 => cases read
  | case6 => cases read
  | case7 octet after ends noBackslash noFault more tail deeper ih =>
      cases read
      obtain ⟨used, rfl, others, follows⟩ := ih deeper
      have free : octet ∉ rules.dialect.reserved :=
        (not_mem_reserved_iff _ _).mpr ⟨by simpa using ends, noBackslash, noFault⟩
      exact ⟨octet :: used, rfl, .plain free others, follows⟩
  | case8 => cases read

theorem readPlainPieces_append {rules : Rules} {used : List UInt8} {pieces : List Piece}
    (spelled : PiecesSpelling rules rules.dialect.reserved pieces used) (rest : List UInt8) :
    readPlainPieces rules (used ++ rest) =
      (readPlainPieces rules rest).map fun read => (pieces ++ read.1, read.2) := by
  induction spelled with
  | nil =>
      rw [List.nil_append]
      cases readPlainPieces rules rest <;> rfl
  | @plain octet pieces text free _ ih =>
      obtain ⟨ends, noBackslash, noFault⟩ := (not_mem_reserved_iff _ _).mp free
      rw [List.cons_append, readPlainPieces_cons, if_neg (by simp [ends]), if_neg noBackslash]
      simp only [noFault, ih]
      cases readPlainPieces rules rest <;> rfl
  | @escape piece pieces escape text first _ ih =>
      obtain ⟨after, rfl, read⟩ := readEscape_of_spelled first
      have ends : rules.dialect.endsValue Octet.backslash = false := by
        cases rules.dialect <;> decide
      rw [List.append_assoc, List.cons_append, readPlainPieces_cons, if_neg (by simp [ends]),
        if_pos rfl, read]
      simp only [bind, Except.bind, ih]
      cases readPlainPieces rules rest <;> rfl

theorem readPlainPieces_complete {rules : Rules} {used rest : List UInt8} {pieces : List Piece}
    (spelled : PiecesSpelling rules rules.dialect.reserved pieces used)
    (follows : Follows (rules.dialect.endsValue · = true) rest) :
    readPlainPieces rules (used ++ rest) = .ok (pieces, rest) := by
  have stops : readPlainPieces rules rest = .ok ([], rest) := by
    cases rest with
    | nil => rw [readPlainPieces]
    | cons octet rest =>
        rw [follows_cons] at follows
        rw [readPlainPieces_cons, if_pos follows]
  rw [readPlainPieces_append spelled, stops]
  simp only [Except.map, List.append_nil]

end Reading

end DirectoryName

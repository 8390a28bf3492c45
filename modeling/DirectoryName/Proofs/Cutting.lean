import DirectoryName.Proofs.Writing.Escape

namespace DirectoryName

/-! Cutting written text.

The notations for display have no reader. What they keep of a name shows when their text is
cut at its separators, those behind a backslash left alone. A text is sealed when it has no
separator to be cut at and no open backslash at its end; sealed texts that were joined come
out of the cut as they went in. Escaping seals a value, for it protects all separators. -/

namespace Text

/-- The pieces between the separators that no backslash protects. -/
def cut (separator : Char) : List Char → List (List Char)
  | [] => [[]]
  | '\\' :: next :: rest => (cut separator rest).modifyHead ('\\' :: next :: ·)
  | character :: rest =>
      if character = separator then [] :: cut separator rest
      else (cut separator rest).modifyHead (character :: ·)

/-- Pieces with what stood right before and right behind each cut. -/
def withMargins (before behind : List Char) : List (List Char) → List (List Char)
  | [] => []
  | [last] => [last]
  | piece :: next :: rest =>
      (piece ++ before) :: (withMargins before behind (next :: rest)).modifyHead (behind ++ ·)

/-- Every separator stands behind a backslash, and behind every backslash something stands. -/
inductive Sealed (separators : List Char) : List Char → Prop where
  | nil : Sealed separators []
  | bare {character : Char} {rest : List Char} (other : character ∉ separators)
      (noBackslash : character ≠ '\\') (others : Sealed separators rest) :
      Sealed separators (character :: rest)
  | escaped (character : Char) {rest : List Char} (others : Sealed separators rest) :
      Sealed separators ('\\' :: character :: rest)

theorem withMargins_nil (pieces : List (List Char)) : withMargins [] [] pieces = pieces := by
  induction pieces with
  | nil => rfl
  | cons piece rest ih =>
      cases rest with
      | nil => rfl
      | cons next rest =>
          rw [withMargins, ih, List.append_nil]
          rfl

namespace Sealed

variable {separators : List Char} {separator : Char} {first second : List Char}

theorem append (firstSealed : Sealed separators first) (secondSealed : Sealed separators second) :
    Sealed separators (first ++ second) := by
  induction firstSealed with
  | nil => exact secondSealed
  | bare other noBackslash _ ih => exact .bare other noBackslash ih
  | escaped character _ ih => exact .escaped character ih

theorem of_free {text : List Char}
    (free : ∀ character ∈ text, character ∉ separators ∧ character ≠ '\\') :
    Sealed separators text := by
  induction text with
  | nil => exact .nil
  | cons character rest ih =>
      rw [List.forall_mem_cons] at free
      exact .bare free.1.1 free.1.2 (ih free.2)

theorem mono {fewer : List Char} {text : List Char}
    (within : fewer ⊆ separators) (isSealed : Sealed separators text) :
    Sealed fewer text := by
  induction isSealed with
  | nil => exact .nil
  | bare other noBackslash _ ih => exact .bare (mt (@within _) other) noBackslash ih
  | escaped character _ ih => exact .escaped character ih

theorem flatMap {α : Type} {items : List α} {write : α → List Char}
    (each : ∀ item ∈ items, Sealed separators (write item)) :
    Sealed separators (items.flatMap write) := by
  induction items with
  | nil => exact .nil
  | cons item items ih =>
      rw [List.forall_mem_cons] at each
      rw [List.flatMap_cons]
      exact each.1.append (ih each.2)

theorem intercalate {joint : List Char} {pieces : List (List Char)}
    (jointSealed : Sealed separators joint) (each : ∀ piece ∈ pieces, Sealed separators piece) :
    Sealed separators (joint.intercalate pieces) := by
  induction pieces with
  | nil => exact .nil
  | cons piece rest ih =>
      rw [List.forall_mem_cons] at each
      cases rest with
      | nil =>
          rw [List.intercalate_singleton]
          exact each.1
      | cons next rest =>
          rw [List.intercalate_cons_cons]
          exact (each.1.append jointSealed).append (ih each.2)

/-- No cut falls into sealed text. -/
theorem cut_append (isSealed : Sealed separators first) (member : separator ∈ separators) :
    cut separator (first ++ second) = (cut separator second).modifyHead (first ++ ·) := by
  induction isSealed with
  | nil => exact (congrFun List.modifyHead_id _).symm
  | @bare character rest other noBackslash _ ih =>
      have differs : character ≠ separator := by
        rintro rfl
        exact other member
      rw [List.cons_append, cut, if_neg differs, ih, List.modifyHead_modifyHead]
      · rfl
      · exact fun _ _ same => absurd same noBackslash
  | escaped character _ ih =>
      rw [List.cons_append, List.cons_append, cut, ih, List.modifyHead_modifyHead]
      rfl

theorem cut_eq (isSealed : Sealed separators first) (member : separator ∈ separators) :
    cut separator first = [first] := by
  have whole := @cut_append separators separator first [] isSealed member
  rw [List.append_nil] at whole
  rw [whole, cut, List.modifyHead_cons, List.append_nil]

theorem cut_separator (isSealed : Sealed separators first) (member : separator ∈ separators)
    (noBackslash : separator ≠ '\\') :
    cut separator (first ++ separator :: second) = first :: cut separator second := by
  rw [isSealed.cut_append member, cut, if_pos rfl, List.modifyHead_cons, List.append_nil]
  exact fun _ _ same => absurd same noBackslash

end Sealed

/-- Cutting takes apart what was joined. -/
theorem cut_intercalate {separators before behind : List Char} {separator : Char}
    {pieces : List (List Char)} (member : separator ∈ separators) (noBackslash : separator ≠ '\\')
    (beforeSealed : Sealed separators before) (behindSealed : Sealed separators behind)
    (each : ∀ piece ∈ pieces, Sealed separators piece) (nonempty : pieces ≠ []) :
    cut separator ((before ++ separator :: behind).intercalate pieces) =
      withMargins before behind pieces := by
  induction pieces with
  | nil => exact absurd rfl nonempty
  | cons piece rest ih =>
      rw [List.forall_mem_cons] at each
      cases rest with
      | nil =>
          rw [List.intercalate_singleton, each.1.cut_eq member]
          rfl
      | cons next rest =>
          have regrouped (text : List Char) : piece ++ (before ++ separator :: behind) ++ text =
              (piece ++ before) ++ separator :: (behind ++ text) := by
            simp only [List.append_assoc, List.cons_append]
          rw [List.intercalate_cons_cons, regrouped,
            (each.1.append beforeSealed).cut_separator member noBackslash,
            behindSealed.cut_append member, ih each.2 (List.cons_ne_nil _ _)]
          rfl

theorem cut_intercalate_singleton {separators : List Char} {separator : Char}
    {pieces : List (List Char)} (member : separator ∈ separators) (noBackslash : separator ≠ '\\')
    (each : ∀ piece ∈ pieces, Sealed separators piece) (nonempty : pieces ≠ []) :
    cut separator ([separator].intercalate pieces) = pieces := by
  have cuts := cut_intercalate member noBackslash .nil .nil each nonempty
  rw [withMargins_nil] at cuts
  exact cuts

end Text

/-- What octets are written with in hexadecimal. -/
def Octet.hexDigits : List Char :=
  ['0', '1', '2', '3', '4', '5', '6', '7', '8', '9', 'a', 'b', 'c', 'd', 'e', 'f']

theorem Octet.hexDigits_of_mem_hexPair {octet : UInt8} {digit : Char}
    (member : digit ∈ hexPair octet) : digit ∈ hexDigits := by
  have each : ∀ octet, hexPair octet ⊆ hexDigits := forall_of_codes (by decide +kernel)
  exact each octet member

/-- The rules protect the backslash, and nothing that stands in hexadecimal strings. -/
structure EscapeRules.Seal (rules : EscapeRules) : Prop where
  backslash : '\\' ∈ rules.specials
  hash : '#' ∉ rules.specials
  digits : ∀ digit ∈ Octet.hexDigits, digit ∉ rules.specials

theorem EscapeRules.ldap_seal : ldap.Seal :=
  ⟨by decide, by decide, by simp [Octet.hexDigits, ldap]⟩

theorem EscapeRules.canonical_seal : canonical.Seal :=
  ⟨by decide, by decide, by simp [Octet.hexDigits, canonical]⟩

namespace Escape

variable {rules : EscapeRules}

theorem hexPair_free (seals : rules.Seal) (octet : UInt8) :
    ∀ digit ∈ Octet.hexPair octet, digit ∉ rules.specials ∧ digit ≠ '\\' := by
  intro digit member
  have hexadecimal := Octet.hexDigits_of_mem_hexPair member
  refine ⟨seals.digits digit hexadecimal, ?_⟩
  rintro rfl
  exact absurd hexadecimal (by decide)

/-- The backslash protects the first digit, and the second needs no protection. -/
theorem hexPairs_sealed (seals : rules.Seal) (character : Char) :
    Text.Sealed rules.specials (hexPairs character) := by
  refine .flatMap fun octet _ => .escaped _ (.of_free fun digit member => ?_)
  exact hexPair_free seals octet digit (List.mem_cons_of_mem _ member)

theorem escapeChar_sealed (seals : rules.Seal) (hexed first last : Bool) (character : Char) :
    Text.Sealed rules.specials (escapeChar rules hexed first last character) := by
  unfold escapeChar
  split
  · split
    · exact hexPairs_sealed seals character
    · exact .escaped character .nil
  split
  · exact .escaped character .nil
  next bare =>
  split
  · exact hexPairs_sealed seals character
  · have other : character ∉ rules.specials := by
      intro special
      exact bare (by simp [EscapeRules.protects, special])
    refine .bare other ?_ .nil
    rintro rfl
    exact other seals.backslash

theorem escapeFrom_sealed (seals : rules.Seal) (hexed first : Bool) (value : List Char) :
    Text.Sealed rules.specials (escapeFrom rules hexed first value) := by
  induction value generalizing first with
  | nil => exact .nil
  | cons character rest ih => exact (escapeChar_sealed seals hexed first _ character).append (ih false)

theorem hexString_sealed (seals : rules.Seal) (value : List Char) :
    Text.Sealed rules.specials (hexString value) :=
  .bare seals.hash (by decide) (.flatMap fun octet _ => .of_free (hexPair_free seals octet))

end Escape

theorem Ava.writeValue_sealed {rules : EscapeRules} (seals : rules.Seal) (ava : Ava) :
    Text.Sealed rules.specials (ava.writeValue rules) := by
  unfold writeValue
  split
  · exact Escape.hexString_sealed seals _
  · exact Escape.escapeFrom_sealed seals _ true _

end DirectoryName

import DirectoryName.Proofs.Comparison
import DirectoryName.Proofs.RoundTrip

namespace DirectoryName

/-! Comparing respelled names.

A comparator looks at the flags of a value too, and those tell whether a hexadecimal pair
stood for an octet outside printable ASCII. So two spellings of one name compare equal
exactly when in each component the same assertions were spelled with such pairs. Other
differences of spelling are invisible, and printable values have no others. -/

namespace ValueFlags

theorem text_of_unchanged {flags : ValueFlags} {value : String}
    (unchanged : flags.readBack value = flags) (noBinary : ¬flags.isBinary = true) :
    flags = .string ∨ flags = .nonprintable := by
  rw [readBack, if_neg noBinary] at unchanged
  split at unchanged
  · exact .inr unchanged.symm
  · exact .inl unchanged.symm

theorem eq_string_of_printable {flags : ValueFlags} {value : String}
    (unchanged : flags.readBack value = flags) (noBinary : ¬flags.isBinary = true)
    (printable : ∀ octet ∈ octetsOf value, Octet.isPrintable octet = true) : flags = .string := by
  have none : (octetsOf value).any (!Octet.isPrintable ·) = false := by
    rw [List.any_eq_false]
    intro octet member
    simp [printable octet member]
  rw [readBack, if_neg noBinary, none, Bool.and_false, if_neg (by decide)] at unchanged
  exact unchanged.symm

end ValueFlags

namespace Ava

def content (ava : Ava) : String × String :=
  (ava.type, ava.value)

/-- Written as text, perhaps with pairs. -/
def IsText (ava : Ava) : Prop :=
  ava.flags = .string ∨ ava.flags = .nonprintable

def isMarked (ava : Ava) : Bool :=
  ava.flags == .nonprintable

theorem count_content {avas : List Ava} (texts : ∀ ava ∈ avas, ava.IsText) (type value : String) :
    (avas.map content).count (type, value) =
      avas.count ⟨type, value, .string⟩ + avas.count ⟨type, value, .nonprintable⟩ := by
  have differ : ValueFlags.string ≠ .nonprintable := by decide
  induction avas with
  | nil => rfl
  | cons ava avas ih =>
      obtain ⟨avaType, avaValue, flags⟩ := ava
      rw [List.forall_mem_cons] at texts
      have rest := ih texts.2
      have text : flags = .string ∨ flags = .nonprintable := texts.1
      simp only [List.map_cons, List.count_cons, content, beq_iff_eq, Prod.mk.injEq,
        Ava.mk.injEq] at rest ⊢
      rcases text with rfl | rfl
      · simp only [differ, and_true, and_false, if_false]
        omega
      · simp only [differ.symm, and_true, and_false, if_false]
        omega

/-- Where types and values are the same, the marks decide. -/
theorem perm_iff_filter_isMarked {left right : List Ava} (leftTexts : ∀ ava ∈ left, ava.IsText)
    (rightTexts : ∀ ava ∈ right, ava.IsText) (same : left.map content = right.map content) :
    left.Perm right ↔ (left.filter isMarked).Perm (right.filter isMarked) := by
  constructor
  · exact List.Perm.filter isMarked
  intro marked
  rw [List.perm_iff_count] at marked ⊢
  -- Equal marks settle the marked assertions, and what is left of the content the others.
  have nonprintable (type value : String) :
      left.count ⟨type, value, .nonprintable⟩ = right.count ⟨type, value, .nonprintable⟩ := by
    have counts := marked ⟨type, value, .nonprintable⟩
    rwa [List.count_filter rfl, List.count_filter rfl] at counts
  intro ava
  by_cases text : ava.IsText
  · obtain ⟨type, value, flags⟩ := ava
    rcases text with rfl | rfl
    · have all := count_content leftTexts type value
      rw [same, count_content rightTexts, nonprintable] at all
      omega
    · exact nonprintable type value
  · rw [List.count_eq_zero.mpr fun member => text (leftTexts ava member),
      List.count_eq_zero.mpr fun member => text (rightTexts ava member)]

end Ava

theorem Comparator.foldAva_exact (ava : Ava) :
    exact.foldAva ava = ⟨Text.asciiLower ava.type, ava.value, ava.flags⟩ := rfl

/-- The assertions whose values were spelled with a pair for an octet outside printable
ASCII, their types in lowercase. -/
def Rdn.marked (rdn : Rdn) : List Ava :=
  (rdn.avas.map Comparator.exact.foldAva).filter Ava.isMarked

/-- The types and values of a name, without how the values were written. -/
def Dn.content (name : Dn) : List (List (String × String)) :=
  name.rdns.map (·.avas.map Ava.content)

namespace Dn

variable {text : String} {flags : NameFlags} {name : Dn}
  (read : parseText text flags = .ok name)
  (noBinary : ∀ rdn ∈ name.rdns, ∀ ava ∈ rdn.avas, ¬ava.flags.isBinary = true)
include read noBinary

theorem isText_of_parse : ∀ rdn ∈ name.rdns, ∀ ava ∈ rdn.avas, ava.IsText :=
  fun rdn member ava inside => ValueFlags.text_of_unchanged
    (stable_of_parse read rdn member ava inside).unchanged (noBinary rdn member ava inside)

/-- Only an octet outside printable ASCII can be marked. -/
theorem marked_of_printable
    (printable : ∀ rdn ∈ name.content, ∀ content ∈ rdn, ∀ octet ∈ octetsOf content.2,
      Octet.isPrintable octet = true) : ∀ rdn ∈ name.rdns, rdn.marked = [] := by
  simp only [content, List.forall_mem_map] at printable
  intro rdn member
  rw [Rdn.marked, List.filter_eq_nil_iff, List.forall_mem_map]
  intro ava inside
  have string : ava.flags = .string := ValueFlags.eq_string_of_printable
    (stable_of_parse read rdn member ava inside).unchanged (noBinary rdn member ava inside)
    (printable rdn member ava inside)
  rw [Ava.isMarked, Comparator.foldAva_exact, string]
  decide

end Dn

namespace Comparator

theorem perm_foldAva_iff_marked {left right : Rdn} (leftTexts : ∀ ava ∈ left.avas, ava.IsText)
    (rightTexts : ∀ ava ∈ right.avas, ava.IsText)
    (same : left.avas.map Ava.content = right.avas.map Ava.content) :
    (left.avas.map exact.foldAva).Perm (right.avas.map exact.foldAva) ↔
      left.marked.Perm right.marked := by
  have folded (rdn : Rdn) : (rdn.avas.map exact.foldAva).map Ava.content =
      (rdn.avas.map Ava.content).map fun content => (Text.asciiLower content.1, content.2) := by
    rw [List.map_map, List.map_map]
    rfl
  apply Ava.perm_iff_filter_isMarked
  · exact List.forall_mem_map.mpr leftTexts
  · exact List.forall_mem_map.mpr rightTexts
  · rw [folded, folded, same]

theorem equal_exact_iff_marked {left right : Dn}
    (leftTexts : ∀ rdn ∈ left.rdns, ∀ ava ∈ rdn.avas, ava.IsText)
    (rightTexts : ∀ rdn ∈ right.rdns, ∀ ava ∈ rdn.avas, ava.IsText)
    (same : left.content = right.content) :
    exact.equal left right = true ↔
      List.Forall₂ (fun leftRdn rightRdn : Rdn => leftRdn.marked.Perm rightRdn.marked)
        left.rdns right.rdns := by
  rw [equal_iff_forall₂_perm]
  rw [Dn.content, Dn.content, ← List.forall₂_eq_eq_eq, List.forall₂_map_left_iff,
    List.forall₂_map_right_iff, List.forall₂_iff_get] at same
  obtain ⟨length, contents⟩ := same
  rw [List.forall₂_iff_get, List.forall₂_iff_get]
  refine and_congr_right fun _ => forall_congr' fun place => forall_congr' fun inLeft =>
    forall_congr' fun inRight => ?_
  exact perm_foldAva_iff_marked (leftTexts _ (List.get_mem _ _)) (rightTexts _ (List.get_mem _ _))
    (contents place inLeft inRight)

theorem compare_eq {left right : String} {first second : Dn}
    (readLeft : Dn.parseText left .default = .ok first)
    (readRight : Dn.parseText right .default = .ok second) (comparator : Comparator) :
    comparator.compare left right = .ok (comparator.equal first second) := by
  rw [compare, readLeft, readRight]
  rfl

/-- Two spellings of the same types and values compare equal exactly when the same assertions
of each component were spelled with a pair for an octet outside printable ASCII; always,
if there is no such octet. -/
theorem compare_respelled {left right : String} {first second : Dn}
    (readLeft : Dn.parseText left .default = .ok first)
    (readRight : Dn.parseText right .default = .ok second)
    (leftTexts : ∀ rdn ∈ first.rdns, ∀ ava ∈ rdn.avas, ¬ava.flags.isBinary = true)
    (rightTexts : ∀ rdn ∈ second.rdns, ∀ ava ∈ rdn.avas, ¬ava.flags.isBinary = true)
    (same : first.content = second.content) :
    ∃ equal, exact.compare left right = .ok equal ∧
      (equal = true ↔ List.Forall₂ (fun leftRdn rightRdn : Rdn =>
        leftRdn.marked.Perm rightRdn.marked) first.rdns second.rdns) ∧
      ((∀ rdn ∈ first.content, ∀ content ∈ rdn, ∀ octet ∈ octetsOf content.2,
        Octet.isPrintable octet = true) → equal = true) := by
  have equal_iff := equal_exact_iff_marked (Dn.isText_of_parse readLeft leftTexts)
    (Dn.isText_of_parse readRight rightTexts) same
  refine ⟨_, compare_eq readLeft readRight exact, equal_iff, fun printable => ?_⟩
  have leftMarks := Dn.marked_of_printable readLeft leftTexts printable
  rw [same] at printable
  have rightMarks := Dn.marked_of_printable readRight rightTexts printable
  have length := congrArg List.length same
  rw [Dn.content, Dn.content, List.length_map, List.length_map] at length
  rw [equal_iff, List.forall₂_iff_get]
  refine ⟨length, fun place inLeft inRight => ?_⟩
  rw [leftMarks _ (List.get_mem _ _), rightMarks _ (List.get_mem _ _)]

/-- One of two equal assertions is marked on each side, though not the same one. -/
theorem compare_respelled_in_turn :
    ∃ first second : Dn,
      Dn.parseText "cn=\\c3\\a9\\2c+CN=\"\u00E9,\"" .default = .ok first ∧
      Dn.parseText "cn=\u00E9\\, + CN = \\C3\\A9\\, " .default = .ok second ∧
      first.content = second.content ∧ first ≠ second ∧
      exact.compare "cn=\\c3\\a9\\2c+CN=\"\u00E9,\"" "cn=\u00E9\\, + CN = \\C3\\A9\\, " =
        .ok true := by
  have readLeft : Dn.parseText "cn=\\c3\\a9\\2c+CN=\"\u00E9,\"" .default =
      .ok ⟨[⟨⟨"cn", "\u00E9,", .nonprintable⟩, [⟨"CN", "\u00E9,", .string⟩]⟩]⟩ := by decide +kernel
  have readRight : Dn.parseText "cn=\u00E9\\, + CN = \\C3\\A9\\, " .default =
      .ok ⟨[⟨⟨"cn", "\u00E9,", .string⟩, [⟨"CN", "\u00E9,", .nonprintable⟩]⟩]⟩ := by decide +kernel
  obtain ⟨equal, compared, equal_iff, _⟩ :=
    compare_respelled readLeft readRight (by decide) (by decide) (by decide)
  have marked : Rdn.marked ⟨⟨"cn", "\u00E9,", .nonprintable⟩, [⟨"CN", "\u00E9,", .string⟩]⟩ =
      Rdn.marked ⟨⟨"cn", "\u00E9,", .string⟩, [⟨"CN", "\u00E9,", .nonprintable⟩]⟩ := by decide
  rw [equal_iff.mpr (.cons (.of_eq marked) .nil)] at compared
  exact ⟨_, _, readLeft, readRight, by decide, by decide, compared⟩

/-- With pairs and without, one value compares unequal to itself. -/
theorem compare_unprintable_respelled :
    ∃ first second : Dn, Dn.parseText "cn=\\c3\\a9" .default = .ok first ∧
      Dn.parseText "cn=\u00E9" .default = .ok second ∧
      (∀ rdn ∈ first.rdns, ∀ ava ∈ rdn.avas, ¬ava.flags.isBinary = true) ∧
      (∀ rdn ∈ second.rdns, ∀ ava ∈ rdn.avas, ¬ava.flags.isBinary = true) ∧
      first.content = second.content ∧
      exact.compare "cn=\\c3\\a9" "cn=\u00E9" = .ok false := by
  have readPairs : Dn.parseText "cn=\\c3\\a9" .default =
      .ok ⟨[⟨⟨"cn", "\u00E9", .nonprintable⟩, []⟩]⟩ := by decide +kernel
  have readPlain : Dn.parseText "cn=\u00E9" .default =
      .ok ⟨[⟨⟨"cn", "\u00E9", .string⟩, []⟩]⟩ := by decide +kernel
  have differ : exact.equal ⟨[⟨⟨"cn", "\u00E9", .nonprintable⟩, []⟩]⟩
      ⟨[⟨⟨"cn", "\u00E9", .string⟩, []⟩]⟩ = false := by cbv
  refine ⟨_, _, readPairs, readPlain, by decide, by decide, by decide, ?_⟩
  rw [compare_eq readPairs readPlain, differ]

end Comparator

end DirectoryName

import DirectoryName.Comparator
import Mathlib.Data.List.FinRange
import Mathlib.Data.List.Forall2
import Mathlib.Logic.Equiv.Fin.Basic

namespace DirectoryName

/-! Equal names.

The comparator folds, sorts and compares. What it decides is whether the assertions of
each component can be paired, each with one that matches it: two lists come out of sorting
equal exactly when they have the same members, each as often in one as in the other. -/

namespace Ava

/-- Canonical assertions are ordered by type, then by value, then by flags. -/
theorem ordered_iff (left right : Ava) :
    ordered left right = true ↔
      left.type < right.type ∨ left.type = right.type ∧
        (left.value < right.value ∨ left.value = right.value ∧
          left.flags.bits ≤ right.flags.bits) := by
  unfold ordered
  split
  · next sameType =>
      split
      · next sameValue => simp [sameType, sameValue]
      · next otherValue => simp [sameType, otherValue]
  · next otherType => simp [otherType]

theorem ordered_trans (first second third : Ava) (below : ordered first second = true)
    (above : ordered second third = true) : ordered first third = true := by
  rw [ordered_iff] at below above ⊢
  grind

theorem ordered_total (left right : Ava) : (ordered left right || ordered right left) = true := by
  rw [Bool.or_eq_true, ordered_iff, ordered_iff]
  grind

theorem ordered_antisymm (left right : Ava) (below : ordered left right = true)
    (above : ordered right left = true) : left = right := by
  rw [ordered_iff] at below above
  have type : left.type = right.type := by grind
  have value : left.value = right.value := by grind
  have bits : left.flags.bits = right.flags.bits := by grind
  obtain ⟨leftType, leftValue, ⟨leftBits⟩⟩ := left
  obtain ⟨rightType, rightValue, ⟨rightBits⟩⟩ := right
  cases type
  cases value
  cases bits
  rfl

/-- Sorting forgets the order of a list and nothing else. -/
theorem mergeSort_eq_iff_perm (left right : List Ava) :
    left.mergeSort ordered = right.mergeSort ordered ↔ left.Perm right := by
  constructor
  · intro same
    exact (List.mergeSort_perm left ordered).symm.trans
      (same ▸ List.mergeSort_perm right ordered)
  · intro perm
    have sorted := List.pairwise_mergeSort ordered_trans ordered_total
    have sortedPerm := ((List.mergeSort_perm left ordered).trans perm).trans
      (List.mergeSort_perm right ordered).symm
    exact List.Perm.eq_of_pairwise (fun first second _ _ => ordered_antisymm first second)
      (sorted left) (sorted right) sortedPerm

/-- Two assertions match where the values of `registered` types compare without regard to
letter case. -/
structure Matches (registered : List String) (left right : Ava) : Prop where
  type : Text.asciiLower left.type = Text.asciiLower right.type
  flags : left.flags = right.flags
  value : left.value = right.value ∨
    (∃ name ∈ registered, Text.asciiLower name = Text.asciiLower left.type) ∧
      Text.lower left.value = Text.lower right.value

end Ava

/-- The assertions of two components are paired one to one with ones that match. -/
def Rdn.Pairs (registered : List String) (left right : Rdn) : Prop :=
  ∃ pairing : Fin left.avas.length ≃ Fin right.avas.length, ∀ place,
    (left.avas.get place).Matches registered (right.avas.get (pairing place))

/-- A one-to-one pairing goes through all places. -/
theorem map_finRange_perm {leftLength rightLength : Nat}
    (pairing : Fin leftLength ≃ Fin rightLength) :
    ((List.finRange leftLength).map pairing).Perm (List.finRange rightLength) := by
  rw [List.perm_ext_iff_of_nodup ((List.nodup_finRange _).map pairing.injective)
    (List.nodup_finRange _)]
  intro place
  simp only [List.mem_map, List.mem_finRange, true_and, iff_true]
  exact pairing.surjective place

theorem map_eq_map_finRange (image : α → β) (list : List α) :
    list.map image = (List.finRange list.length).map (image ∘ list.get) := by
  rw [← List.map_map, List.map_get_finRange]

/-- Two lists have the same images, as often in one as in the other, exactly when their
places can be paired with equal images. -/
theorem perm_map_iff_exists_equiv [DecidableEq β] (image : α → β) (left right : List α) :
    (left.map image).Perm (right.map image) ↔
      ∃ pairing : Fin left.length ≃ Fin right.length, ∀ place,
        image (left.get place) = image (right.get (pairing place)) := by
  constructor
  · intro perm
    have leftLength : (left.map image).length = left.length := List.length_map image
    have rightLength : (right.map image).length = right.length := List.length_map image
    let moved : Fin (left.map image).length ≃ Fin (right.map image).length :=
      ⟨perm.idxBij, perm.symm.idxBij, perm.idxBij_rightInverse_idxBij_symm,
        perm.idxBij_leftInverse_idxBij_symm⟩
    refine ⟨(finCongr leftLength.symm).trans (moved.trans (finCongr rightLength)), ?_⟩
    intro place
    have same := perm.getElem_idxBij_eq_getElem (place.cast leftLength.symm)
    simp only [List.getElem_map] at same
    exact same.symm
  · intro found
    obtain ⟨pairing, same⟩ := found
    have moved : (List.finRange left.length).map (image ∘ left.get) =
        ((List.finRange left.length).map pairing).map (image ∘ right.get) := by
      rw [List.map_map]
      exact List.map_congr_left fun place _ => same place
    rw [map_eq_map_finRange image left, map_eq_map_finRange image right, moved]
    exact (map_finRange_perm pairing).map (image ∘ right.get)

namespace Comparator

theorem folds_register (comparator : Comparator) (name type : String) :
    (comparator.register name).folds type = true ↔
      Text.asciiLower name = Text.asciiLower type ∨ comparator.folds type = true := by
  simp only [folds, register, List.contains_iff_mem, List.mem_cons]
  exact or_congr_left eq_comm

/-- After any registrations the values of the types that were named are folded, whatever the
case of their letters, and those that were folded before. -/
theorem folds_foldl_register (names : List String) (comparator : Comparator) (type : String) :
    (names.foldl register comparator).folds type = true ↔
      (∃ name ∈ names, Text.asciiLower name = Text.asciiLower type) ∨
        comparator.folds type = true := by
  induction names generalizing comparator with
  | nil => simp
  | cons name names ih =>
      rw [List.foldl_cons, ih, folds_register, List.exists_mem_cons_iff]
      exact or_left_comm.trans or_assoc.symm

theorem folds_folding (names : List String) (type : String) :
    (folding names).folds type = true ↔
      ∃ name ∈ names, Text.asciiLower name = Text.asciiLower type := by
  rw [folding, folds_foldl_register]
  simp [exact, folds]

/-- Names are equal when their components have the same folded assertions, each as often in
one as in the other. -/
theorem equal_iff_forall₂_perm (comparator : Comparator) (left right : Dn) :
    comparator.equal left right = true ↔
      List.Forall₂ (fun leftRdn rightRdn : Rdn => (leftRdn.avas.map comparator.foldAva).Perm
        (rightRdn.avas.map comparator.foldAva)) left.rdns right.rdns := by
  have normalized : comparator.normalize left = comparator.normalize right ↔
      List.Forall₂ (fun leftRdn rightRdn : Rdn => (leftRdn.avas.map comparator.foldAva).Perm
        (rightRdn.avas.map comparator.foldAva)) left.rdns right.rdns := by
    rw [normalize, normalize, ← List.forall₂_eq_eq_eq, List.forall₂_map_left_iff,
      List.forall₂_map_right_iff]
    simp only [Ava.mergeSort_eq_iff_perm]
  rw [equal, Bool.and_eq_true, beq_iff_eq, beq_iff_eq, normalized, and_iff_right_iff_imp]
  exact List.Forall₂.length_eq

/-- Folding makes assertions equal that differ in the case of their types, and in that of their
values if the types are folded. -/
theorem foldAva_eq_foldAva_iff (comparator : Comparator) (left right : Ava) :
    comparator.foldAva left = comparator.foldAva right ↔
      Text.asciiLower left.type = Text.asciiLower right.type ∧ left.flags = right.flags ∧
        (left.value = right.value ∨
          comparator.folds left.type = true ∧ Text.lower left.value = Text.lower right.value) := by
  have sameFolds : Text.asciiLower left.type = Text.asciiLower right.type →
      comparator.folds right.type = comparator.folds left.type := by
    intro type
    rw [folds, folds, type]
  simp only [foldAva, Ava.mk.injEq]
  constructor
  · intro same
    obtain ⟨type, value, flags⟩ := same
    refine ⟨type, flags, ?_⟩
    rw [sameFolds type] at value
    split at value
    · next folds => exact .inr ⟨folds, value⟩
    · exact .inl value
  · intro same
    obtain ⟨type, flags, values⟩ := same
    refine ⟨type, ?_, flags⟩
    rw [sameFolds type]
    split
    · rcases values with value | ⟨_, value⟩
      · rw [value]
      · exact value
    · next exact =>
        rcases values with value | ⟨folds, _⟩
        · exact value
        · exact absurd folds exact

section

variable {comparator : Comparator} {registered : List String}
  (folds_iff : ∀ type, comparator.folds type = true ↔
    ∃ name ∈ registered, Text.asciiLower name = Text.asciiLower type)
include folds_iff

/-- Folding makes equal exactly the assertions that match. -/
theorem foldAva_eq_iff (left right : Ava) :
    comparator.foldAva left = comparator.foldAva right ↔ left.Matches registered right := by
  rw [foldAva_eq_foldAva_iff, folds_iff]
  constructor
  · intro same
    exact ⟨same.1, same.2.1, same.2.2⟩
  · intro same
    exact ⟨same.type, same.flags, same.value⟩

theorem perm_map_foldAva_iff (left right : Rdn) :
    (left.avas.map comparator.foldAva).Perm (right.avas.map comparator.foldAva) ↔
      left.Pairs registered right := by
  rw [perm_map_iff_exists_equiv, Rdn.Pairs]
  simp only [foldAva_eq_iff folds_iff]

theorem equal_iff_forall₂ (left right : Dn) :
    comparator.equal left right = true ↔
      List.Forall₂ (Rdn.Pairs registered) left.rdns right.rdns := by
  rw [equal_iff_forall₂_perm]
  simp only [perm_map_foldAva_iff folds_iff]

end

/-- However a comparator was put together, it calls two names equal exactly when they have
equally many components and the assertions of the components in each place can be paired
one to one with ones that match. -/
theorem equal_iff_pairs (given added : List String) (left right : Dn) :
    (added.foldl register (folding given)).equal left right = true ↔
      left.rdns.length = right.rdns.length ∧
        ∀ place (inLeft : place < left.rdns.length) (inRight : place < right.rdns.length),
          Rdn.Pairs (given ++ added) (left.rdns.get ⟨place, inLeft⟩)
            (right.rdns.get ⟨place, inRight⟩) := by
  rw [← List.forall₂_iff_get]
  apply equal_iff_forall₂
  intro type
  rw [folds_foldl_register, folds_folding]
  simp only [List.mem_append]
  grind

/-- Order and letter case do not matter; how often an assertion stands in a component does. -/
example :
    (folding ["CN"]).equal ⟨[⟨.string "cn" "A", [.string "Cn" "a", .string "o" "b"]⟩]⟩
        ⟨[⟨.string "O" "b", [.string "cn" "a", .string "CN" "A"]⟩]⟩ = true ∧
      (folding ["CN"]).equal ⟨[⟨.string "cn" "A", [.string "Cn" "a", .string "o" "b"]⟩]⟩
        ⟨[⟨.string "O" "b", [.string "o" "b", .string "cn" "a"]⟩]⟩ = false :=
  ⟨by cbv, by cbv⟩

end Comparator

end DirectoryName

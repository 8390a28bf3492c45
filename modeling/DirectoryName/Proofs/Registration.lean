import DirectoryName.Proofs.Comparison

namespace DirectoryName

/-! Registering types one after the other.

A comparator that folds more types calls more names equal. The order in which it sorts the
assertions of a component changes with every type, so the sorted lists say little about each
other; but assertions that were paired because they were folded alike are folded alike still,
and the pairing stays. -/

/-- Lists with the same images have the same images under a coarser map. -/
theorem perm_map_of_perm_map [DecidableEq β] [DecidableEq γ] {fine : α → β} {coarse : α → γ}
    (keeps : ∀ first second, fine first = fine second → coarse first = coarse second)
    {left right : List α} (perm : (left.map fine).Perm (right.map fine)) :
    (left.map coarse).Perm (right.map coarse) := by
  rw [perm_map_iff_exists_equiv] at perm ⊢
  obtain ⟨pairing, same⟩ := perm
  exact ⟨pairing, fun place => keeps _ _ (same place)⟩

namespace Comparator

variable {fewer more first second : Comparator}

theorem foldAva_eq_of_folds
    (folds : ∀ type, fewer.folds type = true → more.folds type = true) (left right : Ava)
    (same : fewer.foldAva left = fewer.foldAva right) :
    more.foldAva left = more.foldAva right := by
  rw [foldAva_eq_foldAva_iff] at same ⊢
  obtain ⟨type, flags, values⟩ := same
  exact ⟨type, flags, values.imp_right fun folded => ⟨folds _ folded.1, folded.2⟩⟩

/-- Names stay equal when more types are folded. -/
theorem equal_of_folds (folds : ∀ type, fewer.folds type = true → more.folds type = true)
    {left right : Dn} (equal : fewer.equal left right = true) : more.equal left right = true := by
  rw [equal_iff_forall₂_perm] at equal ⊢
  exact equal.imp fun _ _ => perm_map_of_perm_map (foldAva_eq_of_folds folds)

theorem equal_congr (same : ∀ type, first.folds type = true ↔ second.folds type = true)
    (left right : Dn) : first.equal left right = second.equal left right := by
  rw [Bool.eq_iff_iff]
  exact ⟨equal_of_folds fun type => (same type).mp, equal_of_folds fun type => (same type).mpr⟩

/-- Of the registered names only the lowercase forms matter. -/
theorem folds_foldl_register_iff_mem (comparator : Comparator) (names : List String)
    (type : String) :
    (names.foldl register comparator).folds type = true ↔
      Text.asciiLower type ∈ names.map Text.asciiLower ∨ comparator.folds type = true := by
  rw [folds_foldl_register, List.mem_map]

theorem folds_foldl_register_folding (given added : List String) (type : String) :
    (added.foldl register (folding given)).folds type = true ↔
      Text.asciiLower type ∈ (given ++ added).map Text.asciiLower := by
  have none : exact.folds type = false := rfl
  rw [folding, ← List.foldl_append, folds_foldl_register_iff_mem, none]
  simp only [Bool.false_eq_true, or_false]

/-- Registering a type never separates two names. What a comparator calls equal after any
registrations depends on the set of the names in lowercase, and neither on their order nor on
repetitions or letter case; and the types whose values it folds are those in the set, whether
they were given at first or added. -/
theorem equal_of_registered :
    (∀ (comparator : Comparator) (type : String) (left right : Dn),
        comparator.equal left right = true → (comparator.register type).equal left right = true) ∧
      (∀ (comparator : Comparator) (names others : List String),
        (∀ lowered, lowered ∈ names.map Text.asciiLower ↔ lowered ∈ others.map Text.asciiLower) →
        ∀ left right, (names.foldl register comparator).equal left right =
          (others.foldl register comparator).equal left right) ∧
      ∀ (given added : List String) (type : String),
        (added.foldl register (folding given)).folds type = true ↔
          Text.asciiLower type ∈ (given ++ added).map Text.asciiLower := by
  refine ⟨fun comparator type left right => ?_, fun comparator names others same => ?_,
    folds_foldl_register_folding⟩
  · exact equal_of_folds fun other folds => (folds_register comparator type other).mpr (.inr folds)
  · refine equal_congr fun type => ?_
    rw [folds_foldl_register_iff_mem, folds_foldl_register_iff_mem, same]

/-- Folding moves the two values of `cn` to other places among the sorted assertions. -/
theorem equal_of_registered_between :
    let left : Dn := ⟨[⟨.string "cn" "B", [.string "Cn" "a", .string "o" "X"]⟩]⟩
    let right : Dn := ⟨[⟨.string "O" "x", [.string "CN" "a", .string "cn" "B"]⟩]⟩
    (folding ["O"]).equal left right = true ∧
      ((folding ["O"]).register "CN").equal left right = true ∧
      (["cN", "O", "CN"].foldl register exact).equal left right =
        (["o", "Cn"].foldl register exact).equal left right := by
  intro left right
  have equal : (folding ["O"]).equal left right = true :=
    (equal_iff_forall₂_perm _ _ _).mpr (.cons (by decide) .nil)
  refine ⟨equal, equal_of_registered.1 _ _ _ _ equal, equal_of_registered.2.1 _ _ _ ?_ _ _⟩
  have names : ["cN", "O", "CN"].map Text.asciiLower = ["cn", "o", "cn"] := by decide
  have others : ["o", "Cn"].map Text.asciiLower = ["o", "cn"] := by decide
  intro lowered
  rw [names, others]
  simp only [List.mem_cons, List.not_mem_nil, or_false]
  grind

end Comparator

end DirectoryName

import DirectoryName.Proofs.Octet
import Mathlib.Data.List.TakeWhile

namespace DirectoryName.Reading

/-! What a reader leaves.

A reader is pinned down by what it takes from the text and by how the rest goes on:
a run is as long as it can be exactly when the octet after it does not belong to it. -/

/-- Nothing is left, or the first of what is left satisfies `follow`. -/
def Follows (follow : α → Prop) (rest : List α) : Prop :=
  ∀ next ∈ rest.head?, follow next

@[simp] theorem follows_nil (follow : α → Prop) : Follows follow [] := by
  intro next member
  cases member

@[simp] theorem follows_cons (follow : α → Prop) (next : α) (rest : List α) :
    Follows follow (next :: rest) ↔ follow next := by
  simp [Follows]

theorem Follows.mono {weak strong : α → Prop} {rest : List α} (follows : Follows strong rest)
    (weaker : ∀ next, strong next → weak next) : Follows weak rest :=
  fun next member => weaker next (follows next member)

theorem Follows.append {follow : α → Prop} {used rest : List α} (first : Follows follow used)
    (second : used = [] → Follows follow rest) : Follows follow (used ++ rest) := by
  cases used with
  | nil => exact second rfl
  | cons next used =>
      rw [List.cons_append, follows_cons]
      exact (follows_cons _ _ _).mp first

variable {keep : α → Bool} {used rest : List α}

theorem takeWhile_of_follows (kept : ∀ octet ∈ used, keep octet = true)
    (follows : Follows (keep · = false) rest) : (used ++ rest).takeWhile keep = used := by
  rw [List.takeWhile_append_of_pos kept]
  cases rest with
  | nil => rw [List.takeWhile_nil, List.append_nil]
  | cons octet rest =>
      rw [follows_cons] at follows
      rw [List.takeWhile_cons_of_neg (by simp [follows]), List.append_nil]

theorem dropWhile_of_follows (kept : ∀ octet ∈ used, keep octet = true)
    (follows : Follows (keep · = false) rest) : (used ++ rest).dropWhile keep = rest := by
  rw [List.dropWhile_append_of_pos kept]
  cases rest with
  | nil => rfl
  | cons octet rest =>
      rw [follows_cons] at follows
      rw [List.dropWhile_cons_of_neg (by simp [follows])]

theorem follows_dropWhile (keep : α → Bool) (text : List α) :
    Follows (keep · = false) (text.dropWhile keep) := by
  intro octet member
  have stopped := List.head?_dropWhile_not keep text
  rw [Option.mem_def.mp member] at stopped
  exact stopped

/-- Steps one after the other succeed when each does on what the step before returned. -/
theorem bind_eq_ok_iff {action : Except ε α} {next : α → Except ε β} {result : β} :
    action >>= next = .ok result ↔ ∃ value, action = .ok value ∧ next value = .ok result := by
  cases action with
  | error fault => simp [bind, Except.bind]
  | ok value => simp [bind, Except.bind]

theorem bind_eq_error_iff {action : Except ε α} {next : α → Except ε β} {fault : ε} :
    action >>= next = .error fault ↔
      action = .error fault ∨ ∃ value, action = .ok value ∧ next value = .error fault := by
  cases action with
  | error other => simp [bind, Except.bind]
  | ok value => simp [bind, Except.bind]

theorem map_eq_error_iff {image : α → β} {result : Except ε α} {fault : ε} :
    result.map image = .error fault ↔ result = .error fault := by
  cases result with
  | error other => simp [Except.map]
  | ok value => simp [Except.map]

theorem padding_nil (rules : Rules) : Padding rules [] := by
  refine ⟨?_, fun _ => rfl⟩
  intro octet member
  cases member

theorem padding_append {rules : Rules} {first second : List UInt8}
    (firstPadded : Padding rules first) (secondPadded : Padding rules second) :
    Padding rules (first ++ second) := by
  refine ⟨?_, ?_⟩
  · intro octet member
    rcases List.mem_append.mp member with member | member
    · exact firstPadded.1 octet member
    · exact secondPadded.1 octet member
  · intro strict
    rw [firstPadded.2 strict, secondPadded.2 strict, List.nil_append]

/-- Exactly padding is passed over, and all of it. -/
theorem skipPadding_eq_ok_iff {rules : Rules} {fault : SyntaxFault} {text rest : List UInt8} :
    skipPadding rules fault text = .ok rest ↔
      ∃ padding, text = padding ++ rest ∧ Padding rules padding ∧
        (rules.dialect ≠ .dce → Follows (· ≠ Octet.space) rest) := by
  unfold skipPadding dropSpaces Dialect.padsWithSpaces
  constructor
  · intro skipped
    split at skipped
    · next padded =>
        split at skipped
        · cases skipped
        · next lax =>
            cases skipped
            refine ⟨text.takeWhile (· == Octet.space), List.takeWhile_append_dropWhile.symm,
              ⟨?_, ?_⟩, ?_⟩
            · intro octet member
              simpa using List.mem_takeWhile_imp member
            · intro bare
              cases bare with
              | inl dce => simp [dce] at padded
              | inr strict => exact absurd strict lax
            · intro _
              exact (follows_dropWhile _ text).mono fun octet stopped => by simpa using stopped
    · next bare =>
        cases skipped
        refine ⟨[], rfl, padding_nil rules, ?_⟩
        intro ldap octet member space
        rw [Option.mem_def, space] at member
        simp [ldap, member] at bare
  · intro found
    obtain ⟨padding, rfl, ⟨spaces, none⟩, follows⟩ := found
    cases padding with
    | nil =>
        rw [if_neg]
        · rfl
        · intro padded
          simp only [Bool.and_eq_true, decide_eq_true_eq, beq_iff_eq, List.nil_append] at padded
          exact follows padded.1 Octet.space padded.2 rfl
    | cons first others =>
        have free : ¬(rules.dialect = .dce ∨ rules.strictness.noEdgeSpaces = true) :=
          fun strict => by cases none strict
        rw [not_or] at free
        rw [if_pos (by simp [free.1, spaces first (by simp)]), if_neg free.2,
          dropWhile_of_follows (by simpa using spaces)
            ((follows free.1).mono fun octet other => by simpa using other)]

theorem skipPadding_append {rules : Rules} {padding text : List UInt8} (fault : SyntaxFault)
    (padded : Padding rules padding)
    (noSpace : rules.dialect ≠ .dce → Follows (· ≠ Octet.space) text) :
    skipPadding rules fault (padding ++ text) = .ok text :=
  skipPadding_eq_ok_iff.mpr ⟨padding, rfl, padded, noSpace⟩

end DirectoryName.Reading

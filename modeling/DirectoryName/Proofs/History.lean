import DirectoryName.Draft
import DirectoryName.Proofs.Codec

namespace DirectoryName

/-! Everything a name can become.

A history starts at the root and replaces the current name again and again: by reading,
from loose or typed values, by moving to the parent, by writing and reading, or with a
builder that may take in any name reached before. What each operation keeps, every name
of every history has: no bookkeeping bits, and if only readers and builders were at work,
nothing that could not be written. -/

/-- A step of a builder. -/
inductive Draft.Step where
  | ava (type value : String)
  | rdn (avas : List Triple)
  /-- Appends a name reached before, counted back from the current one. -/
  | suffix (back : Nat)

namespace Draft

def extend? (reached : List Dn) (draft : Draft) : Step → Option Draft
  | .ava type value => some (draft.ava type value)
  | .rdn avas => some (draft.rdn (avas.map Ava.ofTriple))
  | .suffix back => reached[back]?.map draft.suffix

def build? (reached : List Dn) (steps : List Step) : Option Dn :=
  (steps.foldlM (extend? reached) empty).bind fun draft => draft.finish.toOption

end Draft

/-- The current name, and the names before it, the latest first. -/
structure History where
  current : Dn
  earlier : List Dn

namespace History

def names (history : History) : List Dn :=
  history.current :: history.earlier

inductive Operation where
  | parse (input : List UInt8) (flags : NameFlags)
  | parseText (input : String)
  | ofJson (value : Json)
  | decode (value : Json)
  | ofTriples (rdns : List (List Triple))
  | parent
  /-- Writes the name with one flag word and reads it with another. -/
  | rebuild (writing reading : NameFlags)
  | build (steps : List Draft.Step)

/-- Whether the operation lets in only what a reader or a builder has looked at. -/
def Operation.isChecked : Operation → Bool
  | .ofJson _ | .decode _ | .ofTriples _ => false
  | .parse _ _ | .parseText _ | .parent | .rebuild _ _ | .build _ => true

/-- The name that takes the place of the current one; nothing if the operation fails. -/
def result? (history : History) : Operation → Option Dn
  | .parse input flags => (Dn.parse input flags).toOption
  | .parseText input => (Dn.parseText input .default).toOption
  | .ofJson value => (Dn.ofJson value).toOption
  | .decode value => Dn.codec.decode? value
  | .ofTriples rdns => (Dn.ofTriples rdns).toOption
  | .parent => history.current.parent?
  | .rebuild writing reading =>
      (history.current.build writing).toOption.bind fun text =>
        (Dn.parseText text reading).toOption
  | .build steps => Draft.build? history.names steps

/-- An operation that fails changes nothing. -/
def after (history : History) (operation : Operation) : History :=
  match history.result? operation with
  | some name => ⟨name, history.names⟩
  | none => history

def start : History := ⟨.root, []⟩

def run (operations : List Operation) : History :=
  operations.foldl after start

end History

theorem eq_ok_of_toOption {ε α : Type} {result : Except ε α} {value : α}
    (some : result.toOption = some value) : result = .ok value := by
  cases result with
  | error _ => cases some
  | ok _ =>
      cases some
      rfl

namespace Dn

/-- A name is collected from the assertions of its components. -/
theorem ofAvas_eq_ok_iff {rdns : List (List Ava)} {name : Dn} :
    ofAvas rdns = .ok name ↔ name.rdns.map Rdn.avas = rdns := by
  have collected (found : List Rdn) :
      rdns.mapM Rdn.ofAvas? = some found ↔ found.map Rdn.avas = rdns := by
    rw [mapM_eq_some_iff, ← List.forall₂_eq_eq_eq, List.forall₂_map_left_iff]
    simp only [Rdn.ofAvas?_eq_some_iff]
    exact ⟨List.Forall₂.flip, List.Forall₂.flip⟩
  rw [← collected]
  unfold ofAvas
  obtain ⟨found⟩ := name
  cases rdns.mapM Rdn.ofAvas? <;> simp

theorem ofAvas_isPublic {rdns : List (List Ava)} {name : Dn} (made : ofAvas rdns = .ok name)
    (isPublic : ∀ avas ∈ rdns, ∀ ava ∈ avas, ava.flags.IsPublic) : name.IsPublic := by
  rw [← ofAvas_eq_ok_iff.mp made] at isPublic
  exact List.forall_mem_map.mp isPublic

theorem ofTriples_isPublic {rdns : List (List Triple)} {name : Dn}
    (made : ofTriples rdns = .ok name) : name.IsPublic := by
  refine ofAvas_isPublic made (List.forall_mem_map.mpr fun rdn _ => List.forall_mem_map.mpr ?_)
  exact fun triple _ => Ava.ofTriple_isPublic triple

theorem parent?_subset {name parent : Dn} (above : name.parent? = some parent) :
    parent.rdns ⊆ name.rdns := by
  obtain ⟨rdns⟩ := name
  cases rdns with
  | nil => cases above
  | cons first rest =>
      cases above
      exact List.subset_cons_self first rest

end Dn

namespace Draft

def IsPublic (draft : Draft) : Prop :=
  ∀ avas ∈ draft.rdns, ∀ ava ∈ avas, ava.flags.IsPublic

theorem extend?_isPublic {reached : List Dn} {draft next : Draft} {step : Step}
    (reachedPublic : ∀ name ∈ reached, name.IsPublic)
    (extended : extend? reached draft step = some next) (isPublic : draft.IsPublic) :
    next.IsPublic := by
  have rdnPublic (avas : List Ava) (avasPublic : ∀ ava ∈ avas, ava.flags.IsPublic) :
      (draft.rdn avas).IsPublic := by
    rw [IsPublic, rdn, List.forall_mem_append, List.forall_mem_singleton]
    exact ⟨isPublic, avasPublic⟩
  cases step with
  | ava type value =>
      cases extended
      have string : ValueFlags.string.IsPublic := ⟨rfl, rfl⟩
      exact rdnPublic _ (List.forall_mem_singleton.mpr string)
  | rdn avas =>
      cases extended
      exact rdnPublic _ (List.forall_mem_map.mpr fun triple _ => Ava.ofTriple_isPublic triple)
  | suffix back =>
      obtain ⟨name, found, same⟩ := Option.map_eq_some_iff.mp extended
      cases same
      rw [IsPublic, suffix, List.forall_mem_append, List.forall_mem_map]
      exact ⟨isPublic, reachedPublic name (List.mem_of_getElem? found)⟩

theorem foldlM_extend?_isPublic {reached : List Dn} {draft last : Draft} {steps : List Step}
    (reachedPublic : ∀ name ∈ reached, name.IsPublic)
    (extended : steps.foldlM (extend? reached) draft = some last) (isPublic : draft.IsPublic) :
    last.IsPublic := by
  induction steps generalizing draft with
  | nil =>
      cases extended
      exact isPublic
  | cons step steps ih =>
      rw [List.foldlM_cons, Option.bind_eq_bind, Option.bind_eq_some_iff] at extended
      obtain ⟨next, first, rest⟩ := extended
      exact ih rest (extend?_isPublic reachedPublic first isPublic)

/-- A finished name has the components of its draft, and passed the check. -/
theorem finish_eq_ok {draft : Draft} {name : Dn} (finished : draft.finish = .ok name) :
    Dn.ofAvas draft.rdns = .ok name ∧ name.validate = .ok () := by
  obtain ⟨made, collected, finished⟩ := Reading.bind_eq_ok_iff.mp finished
  obtain ⟨_, validated, same⟩ := Reading.bind_eq_ok_iff.mp finished
  cases same
  exact ⟨collected, validated⟩

theorem build?_eq_some {reached : List Dn} {steps : List Step} {name : Dn}
    (built : build? reached steps = some name) :
    ∃ draft, steps.foldlM (extend? reached) empty = some draft ∧ draft.finish = .ok name := by
  obtain ⟨draft, extended, finished⟩ := Option.bind_eq_some_iff.mp built
  exact ⟨draft, extended, eq_ok_of_toOption finished⟩

end Draft

namespace Dn

theorem writable_of_parse {input : List UInt8} {flags : NameFlags} {name : Dn}
    (read : parse input flags = .ok name) : name.Writable :=
  fun rdn member ava inside => (stable_of_parse read rdn member ava inside).writable

theorem validate_eq_ok_iff (name : Dn) : name.validate = .ok () ↔ name.Writable := by
  rw [← fault?_eq_none_iff, validate]
  cases name.fault? <;> simp

theorem build_of_writable {name : Dn} {flags : NameFlags} {form : Notation}
    (writable : name.Writable) (format : flags.format? = some form)
    (readable : form.isReadable = true) : ∃ text, name.build flags = .ok text := by
  obtain ⟨dialect, selected⟩ := Option.isSome_iff_exists.mp readable
  obtain ⟨text, built, _⟩ := build_spelled format selected writable flags.strictness
  exact ⟨text, built⟩

theorem display?_of_writable {name : Dn} (writable : name.Writable) :
    ∃ text, name.display? = some text := by
  have format : (NameFlags.ofFormat .ldapV3).format? = some .ldapV3 := by decide
  obtain ⟨text, built⟩ := build_of_writable writable format rfl
  exact ⟨text, by rw [display?, built]; rfl⟩

end Dn

namespace History

variable {history : History} {operation : Operation} {name : Dn}

theorem rebuild_eq_some {writing reading : NameFlags}
    (result : history.result? (.rebuild writing reading) = some name) :
    ∃ text, Dn.parseText text reading = .ok name := by
  obtain ⟨text, _, read⟩ := Option.bind_eq_some_iff.mp result
  exact ⟨text, eq_ok_of_toOption read⟩

theorem result?_isPublic (isPublic : ∀ reached ∈ history.names, reached.IsPublic)
    (result : history.result? operation = some name) : name.IsPublic := by
  cases operation with
  | parse input flags => exact Dn.parse_isPublic (eq_ok_of_toOption result)
  | parseText input => exact Dn.parse_isPublic (eq_ok_of_toOption result)
  | ofJson value => exact Dn.ofJson_isPublic (eq_ok_of_toOption result)
  | decode value => exact Dn.decode_isPublic result
  | ofTriples rdns => exact Dn.ofTriples_isPublic (eq_ok_of_toOption result)
  | parent =>
      have current := isPublic history.current List.mem_cons_self
      exact fun rdn member => current rdn (Dn.parent?_subset result member)
  | rebuild writing reading =>
      obtain ⟨text, read⟩ := rebuild_eq_some result
      exact Dn.parse_isPublic read
  | build steps =>
      obtain ⟨draft, extended, finished⟩ := Draft.build?_eq_some result
      have drafted := Draft.foldlM_extend?_isPublic isPublic extended fun _ member => by cases member
      exact Dn.ofAvas_isPublic (Draft.finish_eq_ok finished).1 drafted

/-- What a reader or a builder has looked at can be written. -/
theorem result?_writable (checked : operation.isChecked = true)
    (writable : history.current.Writable)
    (result : history.result? operation = some name) : name.Writable := by
  cases operation with
  | parse input flags => exact Dn.writable_of_parse (eq_ok_of_toOption result)
  | parseText input => exact Dn.writable_of_parse (eq_ok_of_toOption result)
  | parent => exact fun rdn member => writable rdn (Dn.parent?_subset result member)
  | rebuild writing reading =>
      obtain ⟨text, read⟩ := rebuild_eq_some result
      exact Dn.writable_of_parse read
  | build steps =>
      obtain ⟨draft, _, finished⟩ := Draft.build?_eq_some result
      exact (Dn.validate_eq_ok_iff name).mp (Draft.finish_eq_ok finished).2
  | ofJson value | decode value | ofTriples rdns => cases checked

/-- What the root has and every allowed operation hands on, every name of a history has. -/
theorem forall_mem_run {property : Dn → Prop} {allowed : Operation → Prop}
    (root : property .root)
    (kept : ∀ (history : History) (operation : Operation) (name : Dn), allowed operation →
      (∀ reached ∈ history.names, property reached) →
        history.result? operation = some name → property name)
    (operations : List Operation) (all : ∀ operation ∈ operations, allowed operation) :
    ∀ name ∈ (run operations).names, property name := by
  -- The induction needs any history that has the property, not only the start.
  have fromHere (history : History) (holds : ∀ reached ∈ history.names, property reached) :
      ∀ name ∈ (operations.foldl after history).names, property name := by
    induction operations generalizing history with
    | nil => exact holds
    | cons operation operations ih =>
        rw [List.forall_mem_cons] at all
        refine ih all.2 (history.after operation) ?_
        unfold after
        split
        · next name result =>
            rw [names, List.forall_mem_cons]
            exact ⟨kept history operation name all.1 holds result, holds⟩
        · exact holds
  exact fromHere start (List.forall_mem_singleton.mpr root)

/-- At every point of every history no component is empty and no assertion has a bookkeeping
bit; and where only readers and builders were at work, the name passes the check and can
be written in every notation that can be read, and displayed. -/
theorem run_invariant (operations : List Operation) :
    (∀ name ∈ (run operations).names, ∀ rdn ∈ name.rdns, rdn.avas ≠ [] ∧
        ∀ ava ∈ rdn.avas, ava.flags.bits &&& 0x10 = 0 ∧ ava.flags.bits &&& 0x20 = 0) ∧
      ((∀ operation ∈ operations, operation.isChecked = true) →
        ∀ name ∈ (run operations).names, name.validate = .ok () ∧
          (∀ (flags : NameFlags) (form : Notation), flags.format? = some form →
            form.isReadable = true → ∃ text, name.build flags = .ok text) ∧
          ∃ text, name.display? = some text) := by
  constructor
  · have isPublic := @forall_mem_run Dn.IsPublic (fun _ => True)
      (fun _ member => by cases member)
      (fun history operation name _ reached result => result?_isPublic reached result)
      operations (fun _ _ => trivial)
    intro name member rdn inside
    exact ⟨List.cons_ne_nil _ _, isPublic name member rdn inside⟩
  · intro checked name member
    have writable := @forall_mem_run Dn.Writable (fun operation => operation.isChecked = true)
      (fun _ member => by cases member)
      (fun history operation name checked reached result =>
        result?_writable checked (reached history.current List.mem_cons_self) result)
      operations checked name member
    exact ⟨(Dn.validate_eq_ok_iff name).mpr writable,
      fun flags form => Dn.build_of_writable writable, Dn.display?_of_writable writable⟩

/-- The second operation fails; the third takes in the current name and the root behind it. -/
theorem run_invariant_rebuilt :
    ∃ operations : List Operation,
      operations = [.parse (octetsOf "cn=\\0a + o=#41;dc=com") ⟨0⟩, .build [.suffix 0, .rdn []],
        .build [.rdn [("x", "y", 0x37)], .suffix 0, .suffix 1], .rebuild ⟨0x30⟩ ⟨0xF030⟩] ∧
      (∀ operation ∈ operations, operation.isChecked = true) ∧
      (run operations).current = ⟨[⟨⟨"x", "y", .binary⟩, []⟩,
        ⟨⟨"cn", "\n", .nonprintable⟩, [⟨"o", "A", .binary⟩]⟩, ⟨⟨"dc", "com", .string⟩, []⟩]⟩ ∧
      (∃ text, (run operations).current.build ⟨0x20⟩ = .ok text) ∧
      ∀ rdn ∈ (run operations).current.rdns, ∀ ava ∈ rdn.avas, ava.flags.bits &&& 0x20 = 0 := by
  refine ⟨_, rfl, by decide, by decide +kernel, ?_, ?_⟩
  · exact ((run_invariant _).2 (by decide) _ List.mem_cons_self).2.1 ⟨0x20⟩ .ldapV2
      (by decide) (by decide)
  · intro rdn member ava inside
    exact (((run_invariant _).1 _ List.mem_cons_self rdn member).2 ava inside).2

end History

end DirectoryName

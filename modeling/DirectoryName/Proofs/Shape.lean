import DirectoryName.Proofs.Visibility
import Mathlib.Algebra.Group.Nat.Defs
import Mathlib.Data.List.Forall2

namespace DirectoryName

/-! The shape of a name in loose form.

What has the shape of a name is said without an order of checks: arrays in arrays, and in front
of each innermost one two strings and a small number. What a name is written as has its shape,
less the bookkeeping bits; and no value, however it was put together, brings any in. -/

theorem forall_mem_of_forall₂ {α β : Type} {related : α → β → Prop} {property : β → Prop}
    {items : List α} {values : List β} (all : List.Forall₂ related items values)
    (holds : ∀ item value, related item value → property value) :
    ∀ value ∈ values, property value := by
  induction all with
  | nil => exact List.forall_mem_nil property
  | cons first _ ih => exact List.forall_mem_cons.mpr ⟨holds _ _ first, ih⟩

namespace Shape

/-- The loose form of an assertion, with anything behind its triple. -/
def IsAva (value : Json) (ava : Ava) : Prop :=
  ∃ (bits : Nat) (extra : List Json),
    value = .array (.string ava.type :: .string ava.value :: .natural bits :: extra) ∧
      bits < 2 ^ 32 ∧ ava.flags = ⟨UInt32.ofNat bits &&& ~~~0x30⟩

def IsRdn (value : Json) (rdn : Rdn) : Prop :=
  ∃ items, value = .array items ∧ List.Forall₂ IsAva items rdn.avas

def IsName (value : Json) (name : Dn) : Prop :=
  ∃ items, value = .array items ∧ List.Forall₂ IsRdn items name.rdns

theorem readText_eq_ok_iff {rdn ava field : Nat} {value : Json} {text : String} :
    readText rdn ava field value = .ok text ↔ value = .string text := by
  unfold readText Json.string
  split <;> simp_all [eq_comm]

theorem readFlags_natural (rdn ava bits : Nat) :
    readFlags rdn ava (.natural bits) =
      if bits < 2 ^ 32 then .ok (UInt32.ofNat bits) else .error (.notFlags rdn ava .number) := rfl

theorem readFlags_eq_ok_iff {rdn ava : Nat} {value : Json} {word : UInt32} :
    readFlags rdn ava value = .ok word ↔
      ∃ bits < 2 ^ 32, value = .natural bits ∧ word = UInt32.ofNat bits := by
  constructor
  · intro done
    unfold readFlags at done
    split at done
    · next bits =>
        split at done
        · next below =>
            cases done
            exact ⟨bits, below, rfl, rfl⟩
        · cases done
    · cases done
  · rintro ⟨bits, below, rfl, rfl⟩
    rw [readFlags_natural, if_pos below]

section

variable {α : Type} {read : Nat → Json → Except Misfit α} {fits : Json → α → Prop}
  {index : Nat} {items : List Json}

theorem readEach_cons (item : Json) :
    readEach read index (item :: items) = (do
      let value ← read index item
      let values ← readEach read (index + 1) items
      return value :: values) := by
  rw [readEach]
  cases read index item with
  | error misfit => rfl
  | ok value => cases readEach read (index + 1) items <;> rfl

theorem readEach_eq_ok_iff
    (reads : ∀ index item value, read index item = .ok value ↔ fits item value)
    {values : List α} :
    readEach read index items = .ok values ↔ List.Forall₂ fits items values := by
  induction items generalizing index values with
  | nil => simp [readEach, eq_comm]
  | cons item items ih =>
      simp only [readEach_cons, Reading.bind_eq_ok_iff, reads, ih, List.forall₂_cons_left_iff]
      constructor
      · rintro ⟨value, fit, others, fit', done⟩
        cases done
        exact ⟨value, others, fit, fit', rfl⟩
      · rintro ⟨value, others, fit, fit', rfl⟩
        exact ⟨value, fit, others, fit', rfl⟩

end

variable {rdn index : Nat} {value : Json}

theorem readAva_triple (type text flags : Json) (extra : List Json) :
    readAva rdn index (.array (type :: text :: flags :: extra)) = (do
      let type ← readText rdn index 0 type
      let text ← readText rdn index 1 text
      let flags ← readFlags rdn index flags
      return .ofTriple (type, text, flags)) := rfl

theorem readAva_eq_ok_iff {ava : Ava} :
    readAva rdn index value = .ok ava ↔ IsAva value ava := by
  unfold readAva IsAva
  split
  · next type text flags extra =>
      simp only [Reading.bind_eq_ok_iff, readText_eq_ok_iff, readFlags_eq_ok_iff]
      constructor
      · rintro ⟨_, rfl, _, rfl, _, ⟨bits, below, rfl, rfl⟩, done⟩
        cases done
        exact ⟨bits, extra, rfl, below, rfl⟩
      · rintro ⟨bits, _, same, below, word⟩
        cases same
        refine ⟨_, rfl, _, rfl, _, ⟨bits, below, rfl, rfl⟩, ?_⟩
        cases ava
        cases word
        rfl
  · next items short =>
      constructor
      · intro done
        cases done
      · rintro ⟨bits, extra, same, _⟩
        cases same
        exact absurd rfl (short _ _ _ _)
  · next noTriple _ =>
      constructor
      · intro done
        cases done
      · rintro ⟨bits, extra, same, _⟩
        exact absurd same (noTriple _ _ _ _)

/-- The first assertion is read like the others. -/
theorem map_avas_readRdn (first : Json) (others : List Json) :
    (readRdn rdn (.array (first :: others))).map Rdn.avas =
      readEach (readAva rdn) 0 (first :: others) := by
  unfold readEach
  simp only [readRdn, bind, Except.bind]
  cases readAva rdn 0 first with
  | error misfit => rfl
  | ok ava =>
      simp only [Nat.zero_add]
      cases readEach (readAva rdn) 1 others <;> rfl

theorem readRdn_eq_ok_iff {rdnIndex : Nat} {component : Rdn} :
    readRdn rdnIndex value = .ok component ↔ IsRdn value component := by
  cases value with
  | scalar value => simp [readRdn, IsRdn]
  | object members => simp [readRdn, IsRdn]
  | array items =>
      cases items with
      | nil => simp [readRdn, IsRdn, Rdn.avas]
      | cons first others =>
          have all := @readEach_eq_ok_iff _ (readAva rdnIndex) IsAva 0 (first :: others)
            (fun _ _ _ => readAva_eq_ok_iff) component.avas
          rw [← map_avas_readRdn] at all
          have same : readRdn rdnIndex (.array (first :: others)) = .ok component ↔
              (readRdn rdnIndex (.array (first :: others))).map Rdn.avas = .ok component.avas := by
            cases readRdn rdnIndex (.array (first :: others)) with
            | error misfit => simp [Except.map]
            | ok found => simp [Except.map, Rdn.avas_injective.eq_iff]
          rw [same, all]
          simp [IsRdn]

theorem readName_eq_ok_iff {name : Dn} : readName value = .ok name ↔ IsName value name := by
  cases value with
  | scalar value => simp [readName, IsName]
  | object members => simp [readName, IsName]
  | array items =>
      have all := @readEach_eq_ok_iff _ readRdn IsRdn 0 items
        (fun _ _ _ => readRdn_eq_ok_iff) name.rdns
      obtain ⟨rdns⟩ := name
      simp only [IsName, Json.array.injEq, exists_eq_left', ← all, readName]
      cases readEach readRdn 0 items <;> simp [Except.map]

theorem IsAva.isPublic {ava : Ava} (fits : IsAva value ava) : ava.flags.IsPublic := by
  obtain ⟨bits, _, _, _, flags⟩ := fits
  rw [flags]
  exact ValueFlags.visible_isPublic ⟨UInt32.ofNat bits⟩

theorem IsName.isPublic {name : Dn} (fits : IsName value name) : name.IsPublic := by
  obtain ⟨_, _, rdns⟩ := fits
  refine forall_mem_of_forall₂ rdns fun _ rdn fits => ?_
  obtain ⟨_, _, avas⟩ := fits
  exact forall_mem_of_forall₂ avas fun _ _ => IsAva.isPublic

theorem isAva_encode (ava : Ava) : IsAva (Ava.codec.encode ava) ava.visible := by
  have masked : ava.visible.flags.visible = ava.visible.flags :=
    (ValueFlags.visible_eq_self_iff _).mpr ava.flags.visible_isPublic
  refine ⟨ava.flags.visible.bits.toNat, [], rfl, ava.flags.visible.bits.toNat_lt, ?_⟩
  rw [UInt32.ofNat_toNat]
  exact masked.symm

theorem isRdn_encode (rdn : Rdn) : IsRdn (Rdn.codec.encode rdn) rdn.visible := by
  refine ⟨_, rfl, ?_⟩
  rw [Rdn.avas_visible, List.forall₂_map_left_iff, List.forall₂_map_right_iff, List.forall₂_same]
  exact fun ava _ => isAva_encode ava

theorem isName_toJson (name : Dn) : IsName name.toJson name.visible := by
  rw [← Dn.codec_encode]
  refine ⟨_, rfl, ?_⟩
  rw [Dn.visible, List.forall₂_map_left_iff, List.forall₂_map_right_iff, List.forall₂_same]
  exact fun rdn _ => isRdn_encode rdn

end Shape

def Ava.mapBits (change : UInt32 → UInt32) (ava : Ava) : Ava where
  type := ava.type
  value := ava.value
  flags := ⟨change ava.flags.bits⟩

/-- The name with the flag word of every value changed. -/
def Dn.mapBits (change : UInt32 → UInt32) (name : Dn) : Dn where
  rdns := name.rdns.map fun rdn => ⟨rdn.first.mapBits change, rdn.others.map (Ava.mapBits change)⟩

namespace Dn

theorem ofJson_eq_ok_iff {value : Json} {name : Dn} :
    ofJson value = .ok name ↔ Shape.IsName value name := by
  rw [← Shape.readName_eq_ok_iff, ofJson]
  cases Shape.readName value <;> simp [Except.mapError]

/-- A name comes back from its loose form without its bookkeeping bits. -/
theorem ofJson_toJson (name : Dn) : ofJson name.toJson = .ok name.visible :=
  ofJson_eq_ok_iff.mpr (Shape.isName_toJson name)

/-- Without its bookkeeping bits a name has all bits of its flag words but 0x10 and 0x20. -/
theorem ofJson_toJson_eq_mapBits (name : Dn) :
    ofJson name.toJson = .ok (name.mapBits (· &&& ~~~0x30)) :=
  name.ofJson_toJson

theorem ofJson_isPublic {value : Json} {name : Dn} (done : ofJson value = .ok name) :
    name.IsPublic :=
  (ofJson_eq_ok_iff.mp done).isPublic

end Dn

end DirectoryName

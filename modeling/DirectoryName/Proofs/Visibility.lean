import DirectoryName.Codec
import DirectoryName.Proofs.Comparison
import DirectoryName.Proofs.RoundTrip
import DirectoryName.Shape
import Mathlib.Data.List.Basic

namespace DirectoryName

/-! Bookkeeping bits.

Two bits of a value's flags are not handed out, but nothing keeps them out of a word that
is written straight into an assertion. Triples and JSON mask them, whatever the word. A
comparator does not: its canonical form shows them as they are, and two names that are
handed out alike can differ for it. -/

theorem and_or_distrib (word left right : UInt32) :
    word &&& (left ||| right) = word &&& left ||| word &&& right := by
  rw [← UInt32.toBitVec_inj]
  exact BitVec.and_or_distrib_left

namespace ValueFlags

/-- Neither bookkeeping bit is set. -/
def IsPublic (flags : ValueFlags) : Prop :=
  flags.bits &&& 0x10 = 0 ∧ flags.bits &&& 0x20 = 0

theorem visible_isPublic (flags : ValueFlags) : flags.visible.IsPublic := by
  have first : ~~~internalMask &&& 0x10 = 0 := by decide
  have second : ~~~internalMask &&& 0x20 = 0 := by decide
  rw [IsPublic, visible, UInt32.and_assoc, UInt32.and_assoc, first, second, UInt32.and_zero]
  exact ⟨rfl, rfl⟩

theorem visible_eq_self_iff (flags : ValueFlags) : flags.visible = flags ↔ flags.IsPublic := by
  constructor
  · intro same
    rw [← same]
    exact flags.visible_isPublic
  · intro hidden
    have all : 0x10 ||| 0x20 ||| ~~~internalMask = (-1 : UInt32) := by decide
    obtain ⟨bits⟩ := flags
    rw [visible, mk.injEq]
    calc bits &&& ~~~internalMask
        = bits &&& 0x10 ||| bits &&& 0x20 ||| bits &&& ~~~internalMask := by
          rw [hidden.1, hidden.2, UInt32.or_self, UInt32.zero_or]
      _ = bits &&& (0x10 ||| 0x20 ||| ~~~internalMask) := by
          rw [and_or_distrib, and_or_distrib]
      _ = bits := by rw [all, UInt32.and_neg_one]

theorem readBack_isPublic (flags : ValueFlags) (value : String) :
    (flags.readBack value).IsPublic := by
  unfold readBack
  split
  · exact ⟨rfl, rfl⟩
  · split
    · exact ⟨rfl, rfl⟩
    · exact ⟨rfl, rfl⟩

end ValueFlags

def Ava.visible (ava : Ava) : Ava where
  type := ava.type
  value := ava.value
  flags := ava.flags.visible

def Rdn.visible (rdn : Rdn) : Rdn where
  first := rdn.first.visible
  others := rdn.others.map Ava.visible

def Dn.visible (name : Dn) : Dn where
  rdns := name.rdns.map Rdn.visible

def Dn.IsPublic (name : Dn) : Prop :=
  ∀ rdn ∈ name.rdns, ∀ ava ∈ rdn.avas, ava.flags.IsPublic

theorem Ava.ofTriple_isPublic (triple : Triple) : (ofTriple triple).flags.IsPublic :=
  ValueFlags.visible_isPublic _

theorem Ava.ofTriple_triple (ava : Ava) : ofTriple ava.triple = ava.visible := by
  have masked := (ValueFlags.visible_eq_self_iff _).mpr ava.flags.visible_isPublic
  rw [ofTriple, triple, visible, mk.injEq]
  exact ⟨rfl, rfl, masked⟩

theorem Ava.visible_eq_self {ava : Ava} (isPublic : ava.flags.IsPublic) : ava.visible = ava := by
  rw [visible, (ValueFlags.visible_eq_self_iff _).mpr isPublic]

namespace Rdn

theorem avas_injective : Function.Injective avas := by
  intro left right same
  obtain ⟨first, others⟩ := left
  cases same
  rfl

theorem avas_visible (rdn : Rdn) : rdn.visible.avas = rdn.avas.map Ava.visible := rfl

theorem visible_eq_self {rdn : Rdn} (isPublic : ∀ ava ∈ rdn.avas, ava.flags.IsPublic) :
    rdn.visible = rdn := by
  apply avas_injective
  rw [avas_visible]
  exact (List.map_congr_left fun ava member => Ava.visible_eq_self (isPublic ava member)).trans
    (List.map_id rdn.avas)

end Rdn

namespace Dn

theorem visible_eq_self {name : Dn} (isPublic : name.IsPublic) : name.visible = name := by
  have same : name.rdns.map Rdn.visible = name.rdns :=
    (List.map_congr_left fun rdn member => Rdn.visible_eq_self (isPublic rdn member)).trans
      (List.map_id name.rdns)
  rw [visible, same]

theorem parse_isPublic {input : List UInt8} {flags : NameFlags} {name : Dn}
    (read : parse input flags = .ok name) : name.IsPublic := by
  intro rdn member ava inside
  rw [← (stable_of_parse read rdn member ava inside).unchanged]
  exact ValueFlags.readBack_isPublic ava.flags ava.value

/-- What the triples of a name say of it is all but its bookkeeping bits. -/
theorem map_ofTriple_triples (name : Dn) :
    name.triples.map (·.map Ava.ofTriple) = name.visible.rdns.map Rdn.avas := by
  simp only [triples, visible, List.map_map]
  refine List.map_congr_left fun rdn _ => ?_
  simp only [Function.comp_apply, List.map_map, Rdn.avas_visible]
  exact List.map_congr_left fun ava _ => Ava.ofTriple_triple ava

theorem visible_eq_of_triples_eq {left right : Dn} (same : left.triples = right.triples) :
    left.visible = right.visible := by
  have avas := left.map_ofTriple_triples
  rw [same, right.map_ofTriple_triples] at avas
  have rdns := List.map_injective_iff.mpr Rdn.avas_injective avas
  cases left
  cases right
  rw [visible, visible, mk.injEq]
  exact rdns.symm

theorem codec_encode (name : Dn) : codec.encode name = name.toJson := by
  rw [toJson, triples, List.map_map]
  refine congrArg Json.array (List.map_congr_left fun rdn _ => ?_)
  rw [Function.comp_apply, List.map_map]
  rfl

end Dn

namespace Json

/-- A triple in loose form, without bookkeeping bits. -/
def IsPublicTriple (value : Json) : Prop :=
  ∃ (type text : String) (flags : ValueFlags),
    value = .array [.string type, .string text, .natural flags.bits.toNat] ∧ flags.IsPublic

/-- A name in loose form, without bookkeeping bits. -/
def IsPublicName (value : Json) : Prop :=
  ∃ rdns : List (List Json), value = .array (rdns.map Json.array) ∧
    ∀ rdn ∈ rdns, ∀ triple ∈ rdn, triple.IsPublicTriple

end Json

theorem Ava.encode_isPublic (ava : Ava) : (codec.encode ava).IsPublicTriple :=
  ⟨ava.type, ava.value, ava.flags.visible, rfl, ava.flags.visible_isPublic⟩

theorem Dn.toJson_isPublic (name : Dn) : name.toJson.IsPublicName := by
  refine ⟨name.rdns.map (·.avas.map Ava.codec.encode), ?_, ?_⟩
  · rw [← codec_encode, List.map_map]
    rfl
  · intro rdn member triple inside
    obtain ⟨rdn, _, rfl⟩ := List.mem_map.mp member
    obtain ⟨ava, _, rfl⟩ := List.mem_map.mp inside
    exact ava.encode_isPublic

namespace Comparator

theorem equal_self (comparator : Comparator) (name : Dn) : comparator.equal name name = true := by
  rw [equal, beq_self_eq_true, beq_self_eq_true, Bool.and_self]

/-- The canonical form has the bookkeeping bits of the name. -/
theorem normalize_isPublic_iff (comparator : Comparator) (name : Dn) :
    (∀ rdn ∈ comparator.normalize name, ∀ ava ∈ rdn, ava.flags.IsPublic) ↔ name.IsPublic := by
  simp only [normalize, List.forall_mem_map, List.mem_mergeSort]
  rfl

end Comparator

namespace Dn

/-- Whatever the flag words are, no triple and no JSON shows a bookkeeping bit. The canonical
form of a comparator shows those that are there, and names with the same triples are equal
for every comparator if there are none. -/
theorem bookkeeping_hidden (name : Dn) :
    (∀ ava : Ava, ValueFlags.IsPublic ⟨ava.triple.2.2⟩ ∧ (Ava.codec.encode ava).IsPublicTriple) ∧
      (∀ rdn ∈ name.triples, ∀ triple ∈ rdn, ValueFlags.IsPublic ⟨triple.2.2⟩) ∧
      name.toJson.IsPublicName ∧ (codec.encode name).IsPublicName ∧
      ∀ comparator : Comparator,
        ((∀ rdn ∈ comparator.normalize name, ∀ ava ∈ rdn, ava.flags.IsPublic) ↔ name.IsPublic) ∧
          ∀ other : Dn, name.IsPublic → other.IsPublic → name.triples = other.triples →
            comparator.equal name other = true := by
  have ofAva (ava : Ava) : ValueFlags.IsPublic ⟨ava.triple.2.2⟩ := ava.flags.visible_isPublic
  refine ⟨fun ava => ⟨ofAva ava, ava.encode_isPublic⟩, ?_, name.toJson_isPublic, ?_, ?_⟩
  · intro rdn member triple inside
    obtain ⟨rdn, _, rfl⟩ := List.mem_map.mp member
    obtain ⟨ava, _, rfl⟩ := List.mem_map.mp inside
    exact ofAva ava
  · rw [codec_encode]
    exact name.toJson_isPublic
  · intro comparator
    refine ⟨comparator.normalize_isPublic_iff name, fun other isPublic otherPublic same => ?_⟩
    have visible := visible_eq_of_triples_eq same
    rw [visible_eq_self isPublic, visible_eq_self otherPublic] at visible
    rw [visible]
    exact comparator.equal_self other

/-- A bookkeeping bit that was written into an assertion comes out in the canonical form, and
tells the name from one with the same triples. -/
theorem bookkeeping_in_canonical_form :
    Comparator.exact.normalize ⟨[⟨⟨"cn", "x", ⟨0x31⟩⟩, []⟩]⟩ = [[⟨"cn", "x", ⟨0x31⟩⟩]] ∧
      ¬ValueFlags.IsPublic ⟨0x31⟩ ∧
      triples ⟨[⟨⟨"cn", "x", ⟨0x31⟩⟩, []⟩]⟩ = triples ⟨[⟨⟨"cn", "x", ⟨0x1⟩⟩, []⟩]⟩ ∧
      Comparator.exact.equal ⟨[⟨⟨"cn", "x", ⟨0x31⟩⟩, []⟩]⟩ ⟨[⟨⟨"cn", "x", ⟨0x1⟩⟩, []⟩]⟩ = false := by
  refine ⟨by cbv, ?_, by decide, by cbv⟩
  rw [ValueFlags.IsPublic]
  decide

end Dn

end DirectoryName

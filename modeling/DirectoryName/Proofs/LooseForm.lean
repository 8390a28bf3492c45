import DirectoryName.Proofs.Misfit
import DirectoryName.Proofs.Writing.Visible

namespace DirectoryName

/-! Names in loose form and in typed form.

The shape check passes over what stands behind a triple and hides the bookkeeping bits, and that
is all a value loses on its way through a name. Writing from the loose form is writing the name
it stands for. -/

namespace Json

def mapItems (change : Json → Json) : Json → Json
  | .array items => .array (items.map change)
  | other => other

/-- The first three elements of a triple, its flags without 0x10 and 0x20. -/
def cutTriple : Json → Json
  | .array (type :: text :: .scalar (.natural bits) :: _) =>
      .array [type, text, .natural (bits &&& 0xFFFFFFCF)]
  | other => other

/-- The value of a name with each of its triples cut. -/
def cutTriples (value : Json) : Json :=
  value.mapItems (mapItems cutTriple)

end Json

theorem map_eq_map_of_forall₂ {related : α → β → Prop} {items : List α} {values : List β}
    {left : α → γ} {right : β → γ} (all : List.Forall₂ related items values)
    (same : ∀ item value, related item value → left item = right value) :
    items.map left = values.map right := by
  rw [← List.forall₂_eq_eq_eq, List.forall₂_map_left_iff, List.forall₂_map_right_iff]
  exact all.imp fun item value => same item value

namespace Shape

variable {value : Json}

theorem toNat_masked {bits : Nat} (below : bits < 2 ^ 32) :
    (UInt32.ofNat bits &&& ~~~0x30).toNat = bits &&& 0xFFFFFFCF := by
  have mask : (~~~0x30 : UInt32).toNat = 0xFFFFFFCF := by decide
  rw [UInt32.toNat_and, mask, UInt32.toNat_ofNat_of_lt' below]

/-- An assertion is written back without what stood behind its triple. -/
theorem IsAva.cutTriple_eq {ava : Ava} (fits : IsAva value ava) :
    value.cutTriple = Ava.codec.encode ava := by
  have masked : ava.flags.visible = ava.flags :=
    (ValueFlags.visible_eq_self_iff _).mpr fits.isPublic
  obtain ⟨bits, extra, rfl, below, flags⟩ := fits
  have word : ava.flags.visible.bits.toNat = bits &&& 0xFFFFFFCF := by
    rw [masked, flags, toNat_masked below]
  change _ = Json.array [.string ava.type, .string ava.value, .natural ava.flags.visible.bits.toNat]
  rw [word]
  rfl

theorem IsRdn.mapItems_cutTriple_eq {rdn : Rdn} (fits : IsRdn value rdn) :
    value.mapItems Json.cutTriple = Rdn.codec.encode rdn := by
  obtain ⟨items, rfl, avas⟩ := fits
  exact congrArg Json.array (map_eq_map_of_forall₂ avas fun _ _ => IsAva.cutTriple_eq)

theorem IsName.cutTriples_eq {name : Dn} (fits : IsName value name) :
    value.cutTriples = name.toJson := by
  obtain ⟨items, rfl, rdns⟩ := fits
  rw [← Dn.codec_encode]
  exact congrArg Json.array (map_eq_map_of_forall₂ rdns fun _ _ => IsRdn.mapItems_cutTriple_eq)

end Shape

namespace Dn

/-- A name in loose form is written as the name is, with the bookkeeping bits or without. -/
theorem buildJson_toJson (name : Dn) (flags : NameFlags) :
    buildJson name.toJson flags = name.build flags := by
  rw [buildJson, ofJson_toJson]
  exact name.build_visible flags

/-- The loose form stands for the typed one. A name goes through it without its bookkeeping bits
and is written alike from both; a loosely typed value that stands for a name comes back with
its triples cut; and one that does not is refused, not written, whatever notation was meant. -/
theorem loose_typed_agree :
    (∀ name : Dn, ofJson name.toJson = .ok (name.mapBits (· &&& ~~~0x30)) ∧
        ∀ flags, buildJson name.toJson flags = name.build flags) ∧
      (∀ (value : Json) (name : Dn), ofJson value = .ok name →
        name.toJson = value.cutTriples) ∧
      ∀ (value : Json) (error : NameError), ofJson value = .error error →
        ∃ misfit, error = .badShape misfit ∧ Shape.NameMisfit value misfit ∧
          ∀ flags, buildJson value flags = .error (.badShape misfit) := by
  refine ⟨fun name => ⟨name.ofJson_toJson_eq_mapBits, name.buildJson_toJson⟩,
    fun value name read => ?_, fun value error failed => ?_⟩
  · exact (ofJson_eq_ok_iff.mp read).cutTriples_eq.symm
  · obtain ⟨misfit, rfl⟩ := ofJson_eq_error failed
    refine ⟨misfit, rfl, ofJson_eq_error_iff.mp failed, fun flags => ?_⟩
    rw [buildJson, failed]

theorem loose_typed_agree_past_triple :
    let long : Json := .array [.string "c n", .string "Jo", .natural 0x32, .natural 5, .array []]
    let cut : Json := .array [.string "c n", .string "Jo", .natural 0x2]
    let bad : Json := .array [.array [long], .array []]
    ofJson (.array [.array [long, long]]) =
        .ok ⟨[⟨⟨"c n", "Jo", .binary⟩, [⟨"c n", "Jo", .binary⟩]⟩]⟩ ∧
      toJson ⟨[⟨⟨"c n", "Jo", .binary⟩, [⟨"c n", "Jo", .binary⟩]⟩]⟩ =
        .array [.array [cut, cut]] ∧
      ofJson bad = .error (.badShape (.emptyRdn 1)) ∧
      buildJson bad ⟨0x90⟩ = .error (.badShape (.emptyRdn 1)) := by
  intro long cut bad
  have read : ofJson (.array [.array [long, long]]) =
      .ok ⟨[⟨⟨"c n", "Jo", .binary⟩, [⟨"c n", "Jo", .binary⟩]⟩]⟩ := rfl
  have failed : ofJson bad = .error (.badShape (.emptyRdn 1)) := rfl
  refine ⟨read, loose_typed_agree.2.1 _ _ read, failed, ?_⟩
  obtain ⟨misfit, same, _, refused⟩ := loose_typed_agree.2.2 _ _ failed
  rw [refused, same]

end Dn

end DirectoryName

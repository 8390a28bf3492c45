import DirectoryName.Probe
import DirectoryName.Proofs.Reading.Name
import DirectoryName.Proofs.Writing.Name

namespace DirectoryName

/-! Writing and reading are inverse to each other.

What is written is a spelling of the name with the flags it is read back with, and every
spelling is read. A name that comes from reading is stable: it can be written, and its
flags are already the ones it is read back with. -/

namespace Ava

/-- Writable, and unchanged by being written and read. -/
structure Stable (ava : Ava) : Prop where
  writable : ava.Writable
  unchanged : ava.flags.readBack ava.value = ava.flags

theorem readBack_eq_self {ava : Ava} (unchanged : ava.flags.readBack ava.value = ava.flags) :
    ava.readBack = ava := by
  rw [readBack, unchanged]

end Ava

theorem Rdn.readBack_eq_self {rdn : Rdn}
    (unchanged : ∀ ava ∈ rdn.avas, ava.flags.readBack ava.value = ava.flags) :
    rdn.readBack = rdn := by
  obtain ⟨first, others⟩ := rdn
  rw [avas, List.forall_mem_cons] at unchanged
  have same : others.map Ava.readBack = others :=
    (List.map_congr_left fun ava member =>
      Ava.readBack_eq_self (unchanged.2 ava member)).trans (List.map_id others)
  rw [readBack, Ava.readBack_eq_self unchanged.1, same]

theorem Dn.readBack_eq_self {name : Dn}
    (unchanged : ∀ rdn ∈ name.rdns, ∀ ava ∈ rdn.avas,
      ava.flags.readBack ava.value = ava.flags) : name.readBack = name := by
  have same : name.rdns.map Rdn.readBack = name.rdns :=
    (List.map_congr_left fun rdn member =>
      Rdn.readBack_eq_self (unchanged rdn member)).trans (List.map_id name.rdns)
  rw [readBack, same]

theorem ValueFlags.readBack_nonprintable {value : String} {octet : UInt8}
    (inside : octet ∈ octetsOf value) (outside : ¬(0x20 ≤ octet ∧ octet ≤ 0x7E)) :
    nonprintable.readBack value = nonprintable := by
  have any : (octetsOf value).any (!Octet.isPrintable ·) = true := by
    rw [List.any_eq_true]
    refine ⟨octet, inside, ?_⟩
    rw [Bool.not_eq_true', ← Bool.not_eq_true, Octet.isPrintable_iff]
    exact outside
  rw [readBack, if_neg (by decide), any]
  rfl

/-- The flags that the pieces of a value call for are the ones it is read back with. -/
theorem Piece.FlagsOf.readBack {pieces : List Piece} {flags : ValueFlags} {text : String}
    (marked : FlagsOf pieces flags) (decodes : pieces.map Piece.octet = octetsOf text) :
    ¬flags.isBinary = true ∧ flags.readBack text = flags := by
  rcases marked with ⟨rfl, octet, member, outside⟩ | ⟨rfl, _⟩
  · have inside : octet ∈ octetsOf text := by
      rw [← decodes]
      exact List.mem_map_of_mem member
    exact ⟨by decide, ValueFlags.readBack_nonprintable inside outside⟩
  · exact ⟨by decide, rfl⟩

theorem ValueSpelling.stable {rules : Rules} {value : Value} {text : List UInt8}
    (spelled : ValueSpelling rules value text) :
    (value.flags.isBinary = true → value.text ≠ "") ∧
      value.flags.readBack value.text = value.flags := by
  cases spelled with
  | hexString nonempty spelled =>
      have binary : ValueFlags.binary.isBinary = true := by decide
      refine ⟨fun _ empty => nonempty ?_, if_pos binary⟩
      rw [spelled.eq_nil_iff, octetsOf_eq_nil_iff]
      exact empty
  | quoted _ _ decodes marked | plain _ _ _ decodes marked =>
      obtain ⟨noBinary, unchanged⟩ := marked.readBack decodes
      exact ⟨fun binary => absurd binary noBinary, unchanged⟩

theorem AvaSpelling.stable {rules : Rules} {ava : Ava} {text : List UInt8}
    (spelled : AvaSpelling rules ava text) : ava.Stable := by
  cases spelled with
  | intro _ typed _ _ valued _ =>
      obtain ⟨nonempty, unchanged⟩ := valued.stable
      exact ⟨⟨typed.isAttributeType, nonempty⟩, unchanged⟩

theorem RdnSpelling.stable {rules : Rules} {rdn : Rdn} {text : List UInt8}
    (spelled : RdnSpelling rules rdn text) : ∀ ava ∈ rdn.avas, ava.Stable := by
  induction spelled with
  | single spelled =>
      rw [Rdn.avas, List.forall_mem_singleton]
      exact spelled.stable
  | more spelled _ ih =>
      rw [Rdn.avas, List.forall_mem_cons]
      exact ⟨spelled.stable, ih⟩

theorem RdnsSpelling.stable {rules : Rules} {rdns : List Rdn} {text : List UInt8}
    (spelled : RdnsSpelling rules rdns text) : ∀ rdn ∈ rdns, ∀ ava ∈ rdn.avas, ava.Stable := by
  induction spelled with
  | single spelled =>
      rw [List.forall_mem_singleton]
      exact spelled.stable
  | more spelled _ _ _ ih =>
      rw [List.forall_mem_cons]
      exact ⟨spelled.stable, ih⟩

theorem PathSpelling.stable {rules : Rules} {rdns : List Rdn} {text : List UInt8}
    (spelled : PathSpelling rules rdns text) : ∀ rdn ∈ rdns, ∀ ava ∈ rdn.avas, ava.Stable := by
  induction spelled with
  | nil => simp
  | cons spelled _ ih =>
      rw [List.forall_mem_cons]
      exact ⟨spelled.stable, ih⟩

/-- Every assertion of a name that has a spelling is stable. -/
theorem NameSpelling.stable {rules : Rules} {name : Dn} {text : List UInt8}
    (spelled : NameSpelling rules name text) :
    ∀ rdn ∈ name.rdns, ∀ ava ∈ rdn.avas, ava.Stable := by
  have ldap : LdapSpelling rules name text → ∀ rdn ∈ name.rdns, ∀ ava ∈ rdn.avas, ava.Stable := by
    intro spelled
    cases spelled with
    | root _ _ => simp [Dn.root]
    | rdns spelled => exact spelled.stable
  unfold NameSpelling at spelled
  split at spelled
  · exact ldap spelled
  · exact ldap spelled
  · intro rdn member
    exact PathSpelling.stable spelled rdn (List.mem_reverse.mpr member)

namespace Dn

/-- A name that can be written is read back, up to the flags of its values, under every
strictness of the notation it was written in. -/
theorem parse_build {written read : NameFlags} {form : Notation} {name : Dn}
    (format : written.format? = some form) (nibble : read.formatBits = written.formatBits)
    (readable : form.isReadable = true)
    (valid : ∀ rdn ∈ name.rdns, ∀ ava ∈ rdn.avas, isAttributeType ava.type = true ∧
      (ava.flags.isBinary = true → ava.value ≠ "")) :
    ∃ text, name.build written = .ok text ∧ parseText text read = .ok name.readBack ∧
      ((∀ rdn ∈ name.rdns, ∀ ava ∈ rdn.avas, ava.flags.readBack ava.value = ava.flags) →
        parseText text read = .ok name) := by
  have writable : name.Writable := fun rdn member ava inside =>
    ⟨(valid rdn member ava inside).1, (valid rdn member ava inside).2⟩
  have same : read.format? = some form := by
    rw [← format, NameFlags.format?, NameFlags.format?, nibble]
  obtain ⟨dialect, selected⟩ := Option.isSome_iff_exists.mp readable
  obtain ⟨text, built, spelled⟩ := build_spelled format selected writable read.strictness
  have parsed := (parse_eq_ok_iff same selected).mpr spelled
  refine ⟨text, built, parsed, fun unchanged => ?_⟩
  rw [readBack_eq_self unchanged] at parsed
  exact parsed

theorem parse_build_mixed_flags :
    NameFlags.format? ⟨0x20⟩ = some .ldapV2 ∧
      ∃ text,
        build ⟨[⟨⟨"o", " \u00C9\x00", ⟨0x5⟩⟩, [⟨"cn", "\"H", ⟨0xFFFFFFFF⟩⟩]⟩,
          ⟨⟨"2.5.4.3", "#,", ⟨0x80000004⟩⟩, []⟩]⟩ ⟨0x20⟩ = .ok text ∧
        parseText text ⟨0xFFFFFF2F⟩ =
          .ok ⟨[⟨⟨"o", " \u00C9\x00", .nonprintable⟩, [⟨"cn", "\"H", .binary⟩]⟩,
            ⟨⟨"2.5.4.3", "#,", .string⟩, []⟩]⟩ := by
  obtain ⟨text, built, parsed, _⟩ := @parse_build ⟨0x20⟩ ⟨0xFFFFFF2F⟩ .ldapV2
    ⟨[⟨⟨"o", " \u00C9\x00", ⟨0x5⟩⟩, [⟨"cn", "\"H", ⟨0xFFFFFFFF⟩⟩]⟩,
      ⟨⟨"2.5.4.3", "#,", ⟨0x80000004⟩⟩, []⟩]⟩
    (by decide) (by decide) (by decide) (by decide)
  exact ⟨by decide, text, built, parsed⟩

/-- Every assertion of a name that was read is stable. -/
theorem stable_of_parse {input : List UInt8} {flags : NameFlags} {name : Dn}
    (read : parse input flags = .ok name) : ∀ rdn ∈ name.rdns, ∀ ava ∈ rdn.avas, ava.Stable := by
  obtain ⟨form, dialect, format, readable⟩ := exists_dialect_of_parse read
  exact ((parse_eq_ok_iff format readable).mp read).stable

theorem writable_of_stable {name : Dn}
    (stable : ∀ rdn ∈ name.rdns, ∀ ava ∈ rdn.avas, ava.Stable) : name.Writable :=
  fun rdn member ava inside => (stable rdn member ava inside).writable

/-- Stable assertions are written so that they are read back as they are. -/
theorem build_of_stable {name : Dn} {other : NameFlags} {form : Notation}
    (stable : ∀ rdn ∈ name.rdns, ∀ ava ∈ rdn.avas, ava.Stable)
    (format : other.format? = some form) (readable : form.isReadable = true) :
    ∃ text, name.build other = .ok text ∧ parseText text other = .ok name := by
  obtain ⟨dialect, selected⟩ := Option.isSome_iff_exists.mp readable
  obtain ⟨text, built, spelled⟩ := build_spelled format selected (writable_of_stable stable)
    other.strictness
  rw [readBack_eq_self fun rdn member ava inside => (stable rdn member ava inside).unchanged]
    at spelled
  exact ⟨text, built, (parse_eq_ok_iff format selected).mpr spelled⟩

theorem build_of_parse {input : List UInt8} {flags other : NameFlags} {form : Notation}
    {name : Dn} (read : parse input flags = .ok name) (format : other.format? = some form)
    (readable : form.isReadable = true) :
    ∃ text, name.build other = .ok text ∧ parseText text other = .ok name :=
  build_of_stable (stable_of_parse read) format readable

/-- Whatever is read can be written in every notation that can be read, and is the same
name there; so probing the readers finds no fault. -/
theorem parse_build_of_parse :
    (∀ (input : List UInt8) (flags : NameFlags) (name : Dn), parse input flags = .ok name →
      ∀ (other : NameFlags) (form : Notation), other.format? = some form →
        form.isReadable = true →
          ∃ text, name.build other = .ok text ∧ parseText text other = .ok name) ∧
      ∀ input, Probe.names input = none := by
  refine ⟨fun _ _ _ read _ _ format readable => build_of_parse read format readable, ?_⟩
  intro input
  rw [Probe.names, List.findSome?_eq_none_iff]
  intro form listed
  have readable := (List.mem_filter.mp listed).2
  have format : (NameFlags.ofFormat form).format? = some form := by
    cases form <;> decide
  rw [Probe.fault?]
  cases read : parse input (.ofFormat form) with
  | error _ => rfl
  | ok name =>
      obtain ⟨text, built, parsed⟩ := build_of_parse read format readable
      simp only [built, parsed]

theorem parse_build_of_quoted :
    parse (octetsOf " OID.2.5.4.3 = \"/\\C3\\a9\" + cn=#2f; o=\\ ") ⟨0x20⟩ =
        .ok ⟨[⟨⟨"2.5.4.3", "/\u00E9", .nonprintable⟩, [⟨"cn", "/", .binary⟩]⟩,
          ⟨⟨"o", " ", .string⟩, []⟩]⟩ ∧
      ∃ text,
        build ⟨[⟨⟨"2.5.4.3", "/\u00E9", .nonprintable⟩, [⟨"cn", "/", .binary⟩]⟩,
          ⟨⟨"o", " ", .string⟩, []⟩]⟩ ⟨0xF030⟩ = .ok text ∧
        parseText text ⟨0xF030⟩ =
          .ok ⟨[⟨⟨"2.5.4.3", "/\u00E9", .nonprintable⟩, [⟨"cn", "/", .binary⟩]⟩,
            ⟨⟨"o", " ", .string⟩, []⟩]⟩ :=
  ⟨by decide +kernel, parse_build_of_parse.1
    (octetsOf " OID.2.5.4.3 = \"/\\C3\\a9\" + cn=#2f; o=\\ ") ⟨0x20⟩ _ (by decide +kernel)
    ⟨0xF030⟩ .dce (by decide) (by decide)⟩

end Dn

end DirectoryName

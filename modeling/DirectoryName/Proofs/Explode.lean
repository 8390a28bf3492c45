import DirectoryName.Explode
import DirectoryName.Proofs.RoundTrip
import DirectoryName.Proofs.Writing.Display

namespace DirectoryName

/-! Names taken apart.

The parts are written anew as values of text, so together they spell the name as text, in every
LDAP notation, whatever notation it was read in. Without its types each value stands there
escaped, set off by bare plus signs. -/

def Ava.asText (ava : Ava) : Ava :=
  .string ava.type ava.value

def Rdn.asText (rdn : Rdn) : Rdn where
  first := rdn.first.asText
  others := rdn.others.map Ava.asText

/-- The same types and values, every value written as text. -/
def Dn.asText (name : Dn) : Dn where
  rdns := name.rdns.map Rdn.asText

theorem Rdn.avas_asText (rdn : Rdn) : rdn.asText.avas = rdn.avas.map Ava.asText :=
  rfl

namespace Dn

theorem forall_mem_asText {name : Dn} {holds : Ava → Prop}
    (each : ∀ rdn ∈ name.rdns, ∀ ava ∈ rdn.avas, holds ava.asText) :
    ∀ rdn ∈ name.asText.rdns, ∀ ava ∈ rdn.avas, holds ava := by
  intro rdn member ava inside
  obtain ⟨original, found, rfl⟩ := List.mem_map.mp member
  rw [Rdn.avas_asText] at inside
  obtain ⟨assertion, within, rfl⟩ := List.mem_map.mp inside
  exact each original found assertion within

theorem asText_writable {name : Dn} (writable : name.Writable) : name.asText.Writable :=
  forall_mem_asText fun rdn member ava inside =>
    Ava.string_writable (writable rdn member ava inside).typed ava.value

theorem asText_readBack (name : Dn) : name.asText.readBack = name.asText :=
  readBack_eq_self (forall_mem_asText fun _ _ ava _ =>
    congrArg Ava.flags (Ava.string_readBack ava.type ava.value))

end Dn

theorem Ava.toList_part (ava : Ava) :
    (ava.part false).toList = ava.asText.write (writeValue .ldap) := by
  rw [part, if_neg (by decide), write, asText, string_writeValue, String.toList_append,
    String.toList_append, List.append_assoc]
  rfl

theorem Rdn.toList_part (rdn : Rdn) :
    (rdn.part false).toList = rdn.asText.write ['+'] (Ava.write (Ava.writeValue .ldap)) := by
  rw [part, String.toList_intercalate, write, avas_asText, List.map_map, List.map_map]
  congr 1
  exact List.map_congr_left fun ava _ => ava.toList_part

theorem Dn.toList_parts (name : Dn) :
    (",".intercalate (name.rdns.map (Rdn.part false))).toList = name.asText.writeLdap := by
  rw [String.toList_intercalate, writeLdap, asText, List.map_map, List.map_map]
  congr 1
  exact List.map_congr_left fun rdn _ => rdn.toList_part

/-- Cut at its plus signs a part without types gives the values. -/
theorem Rdn.cut_part (rdn : Rdn) :
    Text.cut '+' (rdn.part true).toList = rdn.avas.map fun ava => (escapeValue ava.value).toList := by
  rw [part, String.toList_intercalate, List.map_map]
  refine @Text.cut_intercalate_singleton EscapeRules.ldap.specials '+' _ (by decide) (by decide)
    ?_ (List.cons_ne_nil _ _)
  intro piece member
  obtain ⟨ava, _, rfl⟩ := List.mem_map.mp member
  have isSealed := ava.asText.writeValue_sealed EscapeRules.ldap_seal
  rw [Ava.asText, Ava.string_writeValue] at isSealed
  exact isSealed

namespace Dn

variable {input : String} {flags : NameFlags}

theorem explode_eq (nonempty : input ≠ "") (valuesOnly : Bool) :
    explode input valuesOnly flags =
      (parseText input flags).map fun name => name.rdns.map (Rdn.part valuesOnly) := by
  rw [explode, if_neg (by simpa using nonempty)]

theorem explodeRdn_eq (nonempty : input ≠ "") (valuesOnly : Bool) :
    explodeRdn input valuesOnly flags =
      (parseText input flags).map fun name =>
        match name.rdns with
        | [] => []
        | first :: _ => first.parts valuesOnly := by
  unfold explodeRdn
  exact if_neg (by simpa using nonempty)

theorem parse_part {name : Dn} {other : NameFlags} {form : Notation} (writable : name.Writable)
    (format : other.format? = some form)
    (family : form = .ldap ∨ form = .ldapV3 ∨ form = .ldapV2) {rdn : Rdn}
    (member : rdn ∈ name.rdns) : parseText (rdn.part false) other = .ok ⟨[rdn.asText]⟩ := by
  have alone : (⟨[rdn]⟩ : Dn).Writable := by
    intro single inside
    rw [List.mem_singleton.mp inside]
    exact writable rdn member
  have read := parse_writeLdap format family (asText_writable alone)
  rw [asText_readBack] at read
  rw [parseText, octetsOf, Rdn.toList_part]
  have written : writeLdap (asText ⟨[rdn]⟩) =
      rdn.asText.write ['+'] (Ava.write (Ava.writeValue .ldap)) := List.intercalate_singleton
  rw [← written]
  exact read

/-- Taking a name apart fails as reading it does, and otherwise keeps its types and values: the
parts, one by one and joined, are read as the name's components with all values text, in every
LDAP notation. Without types, the texts between the plus signs of a part are read as the values. -/
theorem explode_keeps_values (nonempty : input ≠ "") (flags : NameFlags) :
    (∀ valuesOnly error,
      (explode input valuesOnly flags = .error error ↔ parseText input flags = .error error) ∧
      (explodeRdn input valuesOnly flags = .error error ↔
        parseText input flags = .error error)) ∧
    ∀ name, parseText input flags = .ok name →
      (∃ parts, explode input false flags = .ok parts ∧
        (∀ (other : NameFlags) (form : Notation), other.format? = some form →
          form = .ldap ∨ form = .ldapV3 ∨ form = .ldapV2 →
            List.Forall₂ (fun rdn part => parseText part other = .ok ⟨[rdn.asText]⟩)
                name.rdns parts ∧
              parseText (",".intercalate parts) other = .ok name.asText) ∧
        (name ≠ root → ∃ assertions, explodeRdn input false flags = .ok assertions ∧
          parts.head? = some ("+".intercalate assertions))) ∧
      ∃ parts, explode input true flags = .ok parts ∧
        List.Forall₂
          (fun rdn part => List.Forall₂ (fun ava value => ava.asText.IsReadFrom value) rdn.avas
            (Text.cut '+' part.toList)) name.rdns parts := by
  simp only [explode_eq nonempty, explodeRdn_eq nonempty, Reading.map_eq_error_iff, iff_self, and_self,
    implies_true, true_and]
  intro name read
  have writable := writable_of_stable (stable_of_parse read)
  rw [read]
  refine ⟨⟨_, rfl, ?_, ?_⟩, _, rfl, ?_⟩
  · intro other form format family
    rw [List.forall₂_map_right_iff, List.forall₂_same]
    refine ⟨fun rdn member => parse_part writable format family member, ?_⟩
    have whole := parse_writeLdap format family (asText_writable writable)
    rw [asText_readBack, ← toList_parts] at whole
    exact whole
  · intro components
    obtain ⟨rdns⟩ := name
    cases rdns with
    | nil => exact absurd rfl components
    | cons rdn rdns => exact ⟨_, rfl, rfl⟩
  · rw [List.forall₂_map_right_iff, List.forall₂_same]
    intro rdn member
    rw [Rdn.cut_part, List.forall₂_map_right_iff, List.forall₂_same]
    intro ava inside
    have reads := Ava.isReadFrom_writeValue
      (Ava.string_writable (writable rdn member ava inside).typed ava.value)
    rw [Ava.string_writeValue] at reads
    exact reads

theorem explode_keeps_values_of_path :
    "/o=a\\/+,cn= \\c3\\a9/c=#2b" ≠ "" ∧
      parseText "/o=a\\/+,cn= \\c3\\a9/c=#2b" ⟨0x30⟩ =
        .ok ⟨[⟨⟨"c", "+", .binary⟩, []⟩,
          ⟨.string "o" "a/+", [⟨"cn", " \u00E9", .nonprintable⟩]⟩]⟩ ∧
      (∃ parts, explode "/o=a\\/+,cn= \\c3\\a9/c=#2b" false ⟨0x30⟩ = .ok parts ∧
        List.Forall₂ (fun (rdn : Rdn) part => parseText part ⟨0xF010⟩ = .ok ⟨[rdn.asText]⟩)
          [⟨⟨"c", "+", .binary⟩, []⟩, ⟨.string "o" "a/+", [⟨"cn", " \u00E9", .nonprintable⟩]⟩]
          parts ∧
        parseText (",".intercalate parts) ⟨0xF010⟩ =
          .ok ⟨[⟨.string "c" "+", []⟩, ⟨.string "o" "a/+", [.string "cn" " \u00E9"]⟩]⟩ ∧
        ∃ assertions, explodeRdn "/o=a\\/+,cn= \\c3\\a9/c=#2b" false ⟨0x30⟩ = .ok assertions ∧
          parts.head? = some ("+".intercalate assertions)) ∧
      ∃ parts, explode "/o=a\\/+,cn= \\c3\\a9/c=#2b" true ⟨0x30⟩ = .ok parts ∧
        List.Forall₂
          (fun (rdn : Rdn) part => List.Forall₂ (fun ava value => ava.asText.IsReadFrom value)
            rdn.avas (Text.cut '+' part.toList))
          [⟨⟨"c", "+", .binary⟩, []⟩, ⟨.string "o" "a/+", [⟨"cn", " \u00E9", .nonprintable⟩]⟩]
          parts := by
  have nonempty : "/o=a\\/+,cn= \\c3\\a9/c=#2b" ≠ "" := by decide
  have read : parseText "/o=a\\/+,cn= \\c3\\a9/c=#2b" ⟨0x30⟩ =
      .ok ⟨[⟨⟨"c", "+", .binary⟩, []⟩,
        ⟨.string "o" "a/+", [⟨"cn", " \u00E9", .nonprintable⟩]⟩]⟩ := by
    decide +kernel
  obtain ⟨⟨parts, exploded, spelled, first⟩, values, valued, cut⟩ :=
    (explode_keeps_values nonempty ⟨0x30⟩).2 _ read
  obtain ⟨alone, joined⟩ := spelled ⟨0xF010⟩ .ldapV3 (by decide) (.inr (.inl rfl))
  exact ⟨nonempty, read, ⟨parts, exploded, alone, joined, first (by decide)⟩, values, valued, cut⟩

end Dn

end DirectoryName

import DirectoryName.Proofs.Joining
import DirectoryName.Proofs.RoundTrip

namespace DirectoryName

/-! Attribute types on their own and inside a name.

The check of a type cuts the whole text at its dots. The readers go from octet to octet, stop
where the type stops, pass over padding and drop a word in front of a number. Still they know
the same types: a text is one exactly when it stands whole before an equals sign. -/

/-- An assertion of the value `x` stands for itself, in every notation and however strict. -/
theorem Ava.string_x_spelled {type : String} (typed : isAttributeType type = true)
    (rules : Rules) : AvaSpelling rules (.string type "x") (octetsOf (type ++ "=x")) := by
  have writable := string_writable typed "x"
  have spelled := write_spelled writable.typed (writeValue_spelled rules _ writable)
  have value : (Ava.string type "x").writeValue rules.dialect.escapeRules = ['x'] := by
    rw [writeValue_string]
    cases rules.dialect <;> decide
  have written : Utf8.encode ((Ava.string type "x").write (writeValue rules.dialect.escapeRules)) =
      octetsOf (type ++ "=x") := by
    rw [write, value, octetsOf, String.toList_append]
    rfl
  rw [string_readBack, written] at spelled
  exact spelled

namespace Dn

variable {flags : NameFlags} {type : String}

theorem isAttributeType_of_parse {input : List UInt8} {name : Dn}
    (read : parse input flags = .ok name) :
    ∀ rdn ∈ name.rdns, ∀ ava ∈ rdn.avas, isAttributeType ava.type = true :=
  fun rdn member ava inside => (stable_of_parse read rdn member ava inside).writable.typed

/-- A name that was read with a single assertion has its type checked. -/
theorem isAttributeType_of_parse_single {input : List UInt8} {value : String}
    (read : parse input flags = .ok ⟨[⟨.string type value, []⟩]⟩) : isAttributeType type = true := by
  have typed := isAttributeType_of_parse read _ List.mem_cons_self _ List.mem_cons_self
  exact typed

theorem parse_type_ldap {form : Notation} (format : flags.format? = some form)
    (family : form = .ldap ∨ form = .ldapV3 ∨ form = .ldapV2)
    (typed : isAttributeType type = true) :
    parseText (type ++ "=x") flags = .ok ⟨[⟨.string type "x", []⟩]⟩ := by
  obtain ⟨dialect, readable, ldap⟩ := Notation.dialect?_of_ldap family
  have component : (⟨[⟨.string type "x", []⟩]⟩ : Dn) ≠ root := by
    intro empty
    cases empty
  rw [parseText, parse_eq_ok_iff_rdnsSpelling format readable ldap component]
  exact .single (.single (Ava.string_x_spelled typed _))

theorem parse_type_dce (format : flags.format? = some .dce)
    (typed : isAttributeType type = true) :
    parseText ("/" ++ type ++ "=x") flags = .ok ⟨[⟨.string type "x", []⟩]⟩ := by
  have slash : octetsOf ("/" ++ type ++ "=x") = Octet.slash :: (octetsOf (type ++ "=x") ++ []) := by
    rw [String.append_assoc, octetsOf_append, List.append_nil]
    rfl
  rw [parseText, parse_eq_ok_iff format rfl, NameSpelling, DceSpelling, slash]
  exact .cons (.single (Ava.string_x_spelled typed _)) .nil

/-- What is checked as an attribute type is what is read as one: whole, in front of an equals
sign, in every notation that can be read and under every strictness. And nothing else is
ever read as a type, wherever in a name it stands. -/
theorem isAttributeType_iff_parse :
    (∀ (type : String) (flags : NameFlags) (form : Notation), flags.format? = some form →
        form = .ldap ∨ form = .ldapV3 ∨ form = .ldapV2 →
        (isAttributeType type = true ↔
          parseText (type ++ "=x") flags = .ok ⟨[⟨.string type "x", []⟩]⟩)) ∧
      (∀ (type : String) (flags : NameFlags), flags.format? = some .dce →
        (isAttributeType type = true ↔
          parseText ("/" ++ type ++ "=x") flags = .ok ⟨[⟨.string type "x", []⟩]⟩)) ∧
      ∀ (input : List UInt8) (flags : NameFlags) (name : Dn), parse input flags = .ok name →
        ∀ rdn ∈ name.rdns, ∀ ava ∈ rdn.avas, isAttributeType ava.type = true :=
  ⟨fun _ _ _ format family => ⟨parse_type_ldap format family, isAttributeType_of_parse_single⟩,
    fun _ _ format => ⟨parse_type_dce format, isAttributeType_of_parse_single⟩,
    fun _ _ _ => isAttributeType_of_parse⟩

/-- The word in front of the number is read, but it is no part of the type. -/
theorem isAttributeType_iff_parse_oid_word :
    parseText ("2.5.4.3" ++ "=x") ⟨0xF010⟩ = .ok ⟨[⟨.string "2.5.4.3" "x", []⟩]⟩ ∧
      parseText ("/" ++ "c-n" ++ "=x") ⟨0xF030⟩ = .ok ⟨[⟨.string "c-n" "x", []⟩]⟩ ∧
      parseText ("Oid.2.5" ++ "=x") ⟨0x20⟩ = .ok ⟨[⟨.string "2.5" "x", []⟩]⟩ ∧
      isAttributeType "2.5" = true ∧
      parseText ("Oid.2.5" ++ "=x") ⟨0x20⟩ ≠ .ok ⟨[⟨.string "Oid.2.5" "x", []⟩]⟩ := by
  have read : parseText ("Oid.2.5" ++ "=x") ⟨0x20⟩ = .ok ⟨[⟨.string "2.5" "x", []⟩]⟩ := by
    decide +kernel
  refine ⟨?_, ?_, read, ?_, ?_⟩
  · exact (isAttributeType_iff_parse.1 "2.5.4.3" _ .ldapV3 (by decide) (by decide)).mp (by decide)
  · exact (isAttributeType_iff_parse.2.1 "c-n" _ (by decide)).mp (by decide)
  · exact isAttributeType_iff_parse.2.2 _ _ _ read _ List.mem_cons_self _ List.mem_cons_self
  · rw [Ne, ← isAttributeType_iff_parse.1 "Oid.2.5" _ .ldapV2 (by decide) (by decide)]
    decide

end Dn

end DirectoryName

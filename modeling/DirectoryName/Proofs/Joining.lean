import DirectoryName.Proofs.Reading.Name
import DirectoryName.Proofs.Writing.Name

namespace DirectoryName

/-! Names side by side.

A text that spells components keeps spelling them next to a separator, whatever stands
behind it: each component is read as if it stood alone. An escaped value is spelled in
that way too, so splicing one into a name adds one component and touches no other. -/

theorem RdnsSpelling.ne_nil {rules : Rules} {rdns : List Rdn} {text : List UInt8}
    (spelled : RdnsSpelling rules rdns text) : text ≠ [] := by
  cases spelled with
  | single spelled =>
      intro empty
      have equals := Reading.equals_mem_of_spelled spelled
      rw [empty] at equals
      cases equals
  | more _ _ _ _ => exact List.append_ne_nil_of_right_ne_nil _ (List.cons_ne_nil _ _)

/-- The components of two texts, when a separator stands between them. -/
theorem RdnsSpelling.append {rules : Rules} {left right : List Rdn}
    {leftText rightText : List UInt8} {separator : UInt8}
    (leftSpelled : RdnsSpelling rules left leftText)
    (separates : separator = Octet.comma ∨
      separator = Octet.semicolon ∧ rules.dialect = .lenient)
    (noSpace : rules.strictness.noSpaceAfterSeparator → rightText.head? ≠ some Octet.space)
    (rightSpelled : RdnsSpelling rules right rightText) :
    RdnsSpelling rules (left ++ right) (leftText ++ separator :: rightText) := by
  induction leftSpelled with
  | single spelled => exact .more spelled separates noSpace rightSpelled
  | more spelled innerSeparates innerNoSpace others ih =>
      rw [List.append_assoc, List.cons_append, List.cons_append]
      obtain ⟨next, rest, same⟩ := List.exists_cons_of_ne_nil others.ne_nil
      subst same
      exact .more spelled innerSeparates innerNoSpace ih

theorem LdapSpelling.rdnsSpelling {rules : Rules} {name : Dn} {text : List UInt8}
    (spelled : LdapSpelling rules name text) (nonempty : name ≠ Dn.root) :
    RdnsSpelling rules name.rdns text := by
  cases spelled with
  | root _ _ => exact absurd rfl nonempty
  | rdns spelled => exact spelled

theorem Dialect.escapeRules_ldap {dialect : Dialect} (ldap : dialect ≠ .dce) :
    dialect.escapeRules = .ldap := by
  cases dialect with
  | lenient | strictV3 => rfl
  | dce => exact absurd rfl ldap

theorem ValueFlags.isBinary_string : string.isBinary = false := by
  decide

theorem ValueFlags.isNonprintable_string : string.isNonprintable = false := by
  decide

namespace Ava

theorem string_readBack (type value : String) :
    (Ava.string type value).readBack = .string type value := by
  simp [readBack, Ava.string, ValueFlags.readBack, ValueFlags.isBinary_string,
    ValueFlags.isNonprintable_string]

/-- An assertion with its value as the LDAP notations write it. -/
theorem spelled_of_writable {rules : Rules} {ava : Ava} (ldap : rules.dialect ≠ .dce)
    (writable : ava.Writable) :
    AvaSpelling rules ava.readBack
      (octetsOf (ava.type ++ "=" ++ String.ofList (ava.writeValue .ldap))) := by
  have written : octetsOf (ava.type ++ "=" ++ String.ofList (ava.writeValue .ldap)) =
      Utf8.encode (ava.write (writeValue .ldap)) := by
    simp only [octetsOf, String.toList_append, String.toList_ofList, write]
    rw [List.append_assoc]
    rfl
  have spelled := @write_spelled rules _ ava writable.typed (writeValue_spelled rules _ writable)
  rw [Dialect.escapeRules_ldap ldap] at spelled
  rw [written]
  exact spelled

theorem string_writable {type : String} (typed : isAttributeType type = true) (value : String) :
    (Ava.string type value).Writable :=
  ⟨typed, fun binary => absurd (ValueFlags.isBinary_string.symm.trans binary) (by decide)⟩

/-- A text value is written escaped, without pairs for its octets. -/
theorem writeValue_string (rules : EscapeRules) (type value : String) :
    (Ava.string type value).writeValue rules = Escape.escape rules false value.toList := by
  simp [writeValue, Ava.string, ValueFlags.isBinary_string, ValueFlags.isNonprintable_string]

theorem string_writeValue (type value : String) :
    (Ava.string type value).writeValue .ldap = (escapeValue value).toList := by
  rw [writeValue_string, escapeValue, String.toList_ofList]

/-- An assertion of a text value, with its value escaped. -/
theorem string_spelled {rules : Rules} {type : String} (ldap : rules.dialect ≠ .dce)
    (typed : isAttributeType type = true) (value : String) :
    AvaSpelling rules (.string type value) (octetsOf (type ++ "=" ++ escapeValue value)) := by
  have spelled := spelled_of_writable ldap (string_writable typed value)
  rw [string_readBack, string_writeValue, String.ofList_toList] at spelled
  exact spelled

theorem begins_of_typed {type : String} (typed : isAttributeType type = true) (value : String) :
    BeginsWithKey (octetsOf (type ++ "=" ++ escapeValue value)) := by
  rw [String.append_assoc, octetsOf_append]
  exact (@typeSpelling_self .dce _ typed).begins.append _

end Ava

theorem Notation.dialect?_of_ldap {form : Notation}
    (family : form = .ldap ∨ form = .ldapV3 ∨ form = .ldapV2) :
    ∃ dialect, form.dialect? = some dialect ∧ dialect ≠ .dce := by
  rcases family with rfl | rfl | rfl
  · exact ⟨.lenient, rfl, by decide⟩
  · exact ⟨.strictV3, rfl, by decide⟩
  · exact ⟨.lenient, rfl, by decide⟩

namespace Dn

/-- In the LDAP notations a name with components is read from what spells them. -/
theorem parse_eq_ok_iff_rdnsSpelling {flags : NameFlags} {form : Notation} {dialect : Dialect}
    {input : List UInt8} {name : Dn} (format : flags.format? = some form)
    (readable : form.dialect? = some dialect) (ldap : dialect ≠ .dce) (nonempty : name ≠ root) :
    parse input flags = .ok name ↔
      RdnsSpelling ⟨dialect, flags.strictness⟩ name.rdns input := by
  have ldapNotation : NameSpelling ⟨dialect, flags.strictness⟩ name input ↔
      LdapSpelling ⟨dialect, flags.strictness⟩ name input := by
    cases dialect with
    | lenient | strictV3 => exact Iff.rfl
    | dce => exact absurd rfl ldap
  rw [parse_eq_ok_iff format readable, ldapNotation]
  exact ⟨fun spelled => spelled.rdnsSpelling nonempty, .rdns⟩

/-- An assertion is read from its type and its value as the LDAP notations write it. -/
theorem parse_written {flags : NameFlags} {form : Notation} {ava : Ava}
    (format : flags.format? = some form)
    (family : form = .ldap ∨ form = .ldapV3 ∨ form = .ldapV2) (writable : ava.Writable) :
    parseText (ava.type ++ "=" ++ String.ofList (ava.writeValue .ldap)) flags =
      .ok ⟨[⟨ava.readBack, []⟩]⟩ := by
  obtain ⟨dialect, readable, ldap⟩ := Notation.dialect?_of_ldap family
  have component : (⟨[⟨ava.readBack, []⟩]⟩ : Dn) ≠ root := by
    intro empty
    cases empty
  rw [parseText, parse_eq_ok_iff_rdnsSpelling format readable ldap component]
  exact .single (.single (Ava.spelled_of_writable ldap writable))

/-- What is written in LDAP is read in all LDAP notations, however strict. -/
theorem parse_writeLdap {flags : NameFlags} {form : Notation} {name : Dn}
    (format : flags.format? = some form)
    (family : form = .ldap ∨ form = .ldapV3 ∨ form = .ldapV2) (writable : name.Writable) :
    parse (Utf8.encode name.writeLdap) flags = .ok name.readBack := by
  obtain ⟨dialect, readable, ldap⟩ := Notation.dialect?_of_ldap family
  rw [parse_eq_ok_iff format readable, nameSpelling_ldap ldap]
  by_cases components : name.rdns = []
  · obtain rfl : name = root := congrArg mk components
    exact .root (fun _ member => by cases member) fun _ => rfl
  · refine ldapSpelling_write ldap components writable fun ava checked => ?_
    have spelled := Ava.writeValue_spelled ⟨dialect, flags.strictness⟩ ava checked
    rw [Dialect.escapeRules_ldap ldap] at spelled
    exact spelled

theorem append_ne_root {left right : Dn} (nonempty : right ≠ root) :
    (⟨left.rdns ++ right.rdns⟩ : Dn) ≠ root := by
  intro empty
  apply nonempty
  cases right
  exact congrArg Dn.mk (List.append_eq_nil_iff.mp (congrArg Dn.rdns empty)).2

/-- Two texts with a separator between them are read as the components of both. -/
theorem parse_separated {flags : NameFlags} {form : Notation} {dialect : Dialect}
    {leftText rightText : List UInt8} {left right : Dn} {separator : UInt8}
    (format : flags.format? = some form) (readable : form.dialect? = some dialect)
    (ldap : dialect ≠ .dce)
    (separates : separator = Octet.comma ∨ separator = Octet.semicolon ∧ dialect = .lenient)
    (leftRead : parse leftText flags = .ok left) (leftComponents : left ≠ root)
    (rightRead : parse rightText flags = .ok right) (rightComponents : right ≠ root)
    (noSpace : flags.noSpaceAfterSeparator = true → rightText.head? ≠ some Octet.space) :
    parse (leftText ++ separator :: rightText) flags = .ok ⟨left.rdns ++ right.rdns⟩ := by
  rw [parse_eq_ok_iff_rdnsSpelling format readable ldap leftComponents] at leftRead
  rw [parse_eq_ok_iff_rdnsSpelling format readable ldap rightComponents] at rightRead
  rw [parse_eq_ok_iff_rdnsSpelling format readable ldap (append_ne_root rightComponents)]
  exact leftRead.append separates noSpace rightRead

/-- An escaped value keeps to itself: whatever names stand before and behind its assertion,
they and the value are read as they are without each other. -/
theorem parse_escapeValue {flags : NameFlags} {form : Notation} {type : String}
    (format : flags.format? = some form)
    (family : form = .ldap ∨ form = .ldapV3 ∨ form = .ldapV2)
    (typed : isAttributeType type = true) (value : String) :
    parse (octetsOf (type ++ "=" ++ escapeValue value)) flags =
        .ok ⟨[⟨.string type value, []⟩]⟩ ∧
      (∀ before left, parse before flags = .ok left → left ≠ root →
        parse (before ++ octetsOf ("," ++ type ++ "=" ++ escapeValue value)) flags =
          .ok ⟨left.rdns ++ [⟨.string type value, []⟩]⟩) ∧
      (∀ after right, parse after flags = .ok right → right ≠ root →
        (flags.noSpaceAfterSeparator = true → after.head? ≠ some Octet.space) →
        parse (octetsOf (type ++ "=" ++ escapeValue value ++ ",") ++ after) flags =
          .ok ⟨[⟨.string type value, []⟩] ++ right.rdns⟩) ∧
      ∀ before left after right, parse before flags = .ok left → left ≠ root →
        parse after flags = .ok right → right ≠ root →
        (flags.noSpaceAfterSeparator = true → after.head? ≠ some Octet.space) →
        parse (before ++ octetsOf ("," ++ type ++ "=" ++ escapeValue value ++ ",") ++ after)
            flags =
          .ok ⟨left.rdns ++ [⟨.string type value, []⟩] ++ right.rdns⟩ := by
  obtain ⟨dialect, readable, ldap⟩ := Notation.dialect?_of_ldap family
  have comma : octetsOf "," = [Octet.comma] := by decide
  have behind : ∀ text, octetsOf ("," ++ type ++ "=" ++ text) =
      Octet.comma :: octetsOf (type ++ "=" ++ text) := by
    intro text
    rw [String.append_assoc, String.append_assoc, octetsOf_append, comma, ← String.append_assoc]
    rfl
  have component : (⟨[⟨.string type value, []⟩]⟩ : Dn) ≠ root := by
    intro empty
    cases empty
  have begins := Ava.begins_of_typed typed value
  have alone : parse (octetsOf (type ++ "=" ++ escapeValue value)) flags =
      .ok ⟨[⟨.string type value, []⟩]⟩ :=
    (parse_eq_ok_iff_rdnsSpelling format readable ldap component).mpr
      (.single (.single (Ava.string_spelled ldap typed value)))
  refine ⟨alone, ?_, ?_, ?_⟩
  · intro before left leftRead leftComponents
    rw [behind]
    exact parse_separated format readable ldap (.inl rfl) leftRead leftComponents alone component
      fun _ space => begins.no_space _ space rfl
  · intro after right rightRead rightComponents bare
    rw [octetsOf_append, comma, List.append_assoc]
    exact parse_separated format readable ldap (.inl rfl) alone component rightRead
      rightComponents bare
  · intro before left after right leftRead leftComponents rightRead rightComponents bare
    have followed := parse_separated format readable ldap (.inl rfl) alone component rightRead
      rightComponents bare
    rw [octetsOf_append, comma, behind, List.append_assoc, List.append_assoc, List.append_assoc]
    exact parse_separated format readable ldap (.inl rfl) leftRead leftComponents followed
      (append_ne_root rightComponents) fun _ space => (begins.append _).no_space _ space rfl

theorem parse_escapeValue_between_padded :
    NameFlags.format? ⟨0x20⟩ = some .ldapV2 ∧ isAttributeType "2.5.4.3" = true ∧
      parse (octetsOf " o = \"a,b\" ") ⟨0x20⟩ = .ok ⟨[⟨.string "o" "a,b", []⟩]⟩ ∧
      parse (octetsOf " dc=x ;c=#48") ⟨0x20⟩ =
        .ok ⟨[⟨.string "dc" "x", []⟩, ⟨⟨"c", "H", .binary⟩, []⟩]⟩ ∧
      parse (octetsOf " o = \"a,b\" " ++
          octetsOf ("," ++ "2.5.4.3" ++ "=" ++ escapeValue " #\",\x00;+\\=\u00E9 " ++ ",") ++
          octetsOf " dc=x ;c=#48") ⟨0x20⟩ =
        .ok ⟨[⟨.string "o" "a,b", []⟩, ⟨.string "2.5.4.3" " #\",\x00;+\\=\u00E9 ", []⟩,
          ⟨.string "dc" "x", []⟩, ⟨⟨"c", "H", .binary⟩, []⟩]⟩ := by
  have left : parse (octetsOf " o = \"a,b\" ") ⟨0x20⟩ = .ok ⟨[⟨.string "o" "a,b", []⟩]⟩ := by
    decide +kernel
  have right : parse (octetsOf " dc=x ;c=#48") ⟨0x20⟩ =
      .ok ⟨[⟨.string "dc" "x", []⟩, ⟨⟨"c", "H", .binary⟩, []⟩]⟩ := by
    decide +kernel
  have between := (@parse_escapeValue ⟨0x20⟩ .ldapV2 "2.5.4.3" (by decide) (by decide) (by decide)
    " #\",\x00;+\\=\u00E9 ").2.2.2
  exact ⟨by decide, by decide, left, right,
    between _ _ _ _ left (by decide) right (by decide) (by decide)⟩

end Dn

end DirectoryName

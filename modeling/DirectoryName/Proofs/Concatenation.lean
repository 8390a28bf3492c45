import DirectoryName.Proofs.History
import DirectoryName.Proofs.Joining

namespace DirectoryName

/-! Names put together.

Texts of two names, one behind the other, spell the name that has the components of both.
A builder that takes in the two names ends with the same name. In path notation the text of
the more general name comes first, and nothing has to stand between the two. -/

theorem PathSpelling.append {rules : Rules} {first second : List Rdn}
    {firstText secondText : List UInt8} (firstSpelled : PathSpelling rules first firstText)
    (secondSpelled : PathSpelling rules second secondText) :
    PathSpelling rules (first ++ second) (firstText ++ secondText) := by
  induction firstSpelled with
  | nil => exact secondSpelled
  | cons spelled _ ih =>
      rw [List.cons_append, List.cons_append, List.append_assoc]
      exact .cons spelled ih

/-- A draft of components that can be written is finished as they are. -/
theorem Draft.finish_map_avas {rdns : List Rdn} (writable : (⟨rdns⟩ : Dn).Writable) :
    Draft.finish ⟨rdns.map Rdn.avas⟩ = .ok ⟨rdns⟩ := by
  have collected : Dn.ofAvas (rdns.map Rdn.avas) = .ok ⟨rdns⟩ := Dn.ofAvas_eq_ok_iff.mpr rfl
  simp only [finish, collected, bind, Except.bind, (Dn.validate_eq_ok_iff _).mpr writable]
  rfl

namespace Dn

variable {flags : NameFlags} {leftText rightText : List UInt8} {left right : Dn}

theorem Writable.append (leftWritable : left.Writable) (rightWritable : right.Writable) :
    (⟨left.rdns ++ right.rdns⟩ : Dn).Writable :=
  List.forall_mem_append.mpr ⟨leftWritable, rightWritable⟩

/-- A builder takes in names as they were read. -/
theorem finish_suffix_of_parse (leftRead : parse leftText flags = .ok left)
    (rightRead : parse rightText flags = .ok right) :
    ((Draft.empty.suffix left).suffix right).finish = .ok ⟨left.rdns ++ right.rdns⟩ := by
  have writable := (writable_of_parse leftRead).append (writable_of_parse rightRead)
  have components : (Draft.empty.suffix left).suffix right =
      ⟨(left.rdns ++ right.rdns).map Rdn.avas⟩ := by
    rw [List.map_append]
    rfl
  rw [components]
  exact Draft.finish_map_avas writable

theorem parse_path_append (format : flags.format? = some .dce)
    (leftRead : parse leftText flags = .ok left) (rightRead : parse rightText flags = .ok right) :
    parse (rightText ++ leftText) flags = .ok ⟨left.rdns ++ right.rdns⟩ := by
  rw [parse_eq_ok_iff format rfl, NameSpelling, DceSpelling] at leftRead rightRead ⊢
  rw [List.reverse_append]
  exact rightRead.append leftRead

/-- Reading puts names together as a builder does: two texts with a separator between them
are read as the components of both names, and in path notation two texts as they are, the
more general name in front. -/
theorem parse_concatenation :
    (∀ (flags : NameFlags) (form : Notation), flags.format? = some form →
      (form = .ldap ∨ form = .ldapV3 ∨ form = .ldapV2) →
      ∀ (leftText rightText : List UInt8) (left right : Dn),
        parse leftText flags = .ok left → left ≠ root →
        parse rightText flags = .ok right → right ≠ root →
        (flags.noSpaceAfterSeparator = true → rightText.head? ≠ some Octet.space) →
        parse (leftText ++ octetsOf "," ++ rightText) flags = .ok ⟨left.rdns ++ right.rdns⟩ ∧
        (form ≠ .ldapV3 →
          parse (leftText ++ octetsOf ";" ++ rightText) flags =
            .ok ⟨left.rdns ++ right.rdns⟩) ∧
        ((Draft.empty.suffix left).suffix right).finish = .ok ⟨left.rdns ++ right.rdns⟩) ∧
    ∀ flags : NameFlags, flags.format? = some .dce →
      ∀ (leftText rightText : List UInt8) (left right : Dn),
        parse leftText flags = .ok left → parse rightText flags = .ok right →
        parse (rightText ++ leftText) flags = .ok ⟨left.rdns ++ right.rdns⟩ ∧
        ((Draft.empty.suffix left).suffix right).finish =
          .ok ⟨left.rdns ++ right.rdns⟩ := by
  have comma : octetsOf "," = [Octet.comma] := by decide
  have semicolon : octetsOf ";" = [Octet.semicolon] := by decide
  constructor
  · intro flags form format family leftText rightText left right leftRead leftComponents
      rightRead rightComponents noSpace
    rw [comma, semicolon, List.append_assoc, List.append_assoc]
    refine ⟨?_, ?_, finish_suffix_of_parse leftRead rightRead⟩
    · obtain ⟨dialect, readable, ldap⟩ := Notation.dialect?_of_ldap family
      exact parse_separated format readable ldap (.inl rfl) leftRead leftComponents rightRead
        rightComponents noSpace
    · intro lenient
      have readable : form.dialect? = some .lenient := by
        rcases family with rfl | rfl | rfl
        · rfl
        · exact absurd rfl lenient
        · rfl
      exact parse_separated format readable (by decide) (.inr ⟨rfl, rfl⟩) leftRead leftComponents
        rightRead rightComponents noSpace
  · intro flags format leftText rightText left right leftRead rightRead
    exact ⟨parse_path_append format leftRead rightRead, finish_suffix_of_parse leftRead rightRead⟩

theorem parse_concatenation_of_padded :
    NameFlags.format? ⟨0x2020⟩ = some .ldapV2 ∧ NameFlags.format? ⟨0xF030⟩ = some .dce ∧
      parse (octetsOf "cn=\\ a \\  ") ⟨0x2020⟩ = .ok ⟨[⟨.string "cn" " a  ", []⟩]⟩ ∧
      parse (octetsOf "o=\"x;\" ;c=#48 ") ⟨0x2020⟩ =
        .ok ⟨[⟨.string "o" "x;", []⟩, ⟨⟨"c", "H", .binary⟩, []⟩]⟩ ∧
      parse (octetsOf "cn=\\ a \\  " ++ octetsOf ";" ++ octetsOf "o=\"x;\" ;c=#48 ") ⟨0x2020⟩ =
        .ok ⟨[⟨.string "cn" " a  ", []⟩, ⟨.string "o" "x;", []⟩, ⟨⟨"c", "H", .binary⟩, []⟩]⟩ ∧
      parse (octetsOf "/c= a,o=\\41") ⟨0xF030⟩ =
        .ok ⟨[⟨.string "c" " a", [.string "o" "A"]⟩]⟩ ∧
      parse (octetsOf "/c= a,o=\\41" ++ octetsOf "/c= a,o=\\41") ⟨0xF030⟩ =
        .ok ⟨[⟨.string "c" " a", [.string "o" "A"]⟩, ⟨.string "c" " a", [.string "o" "A"]⟩]⟩ := by
  have left : parse (octetsOf "cn=\\ a \\  ") ⟨0x2020⟩ = .ok ⟨[⟨.string "cn" " a  ", []⟩]⟩ := by
    decide +kernel
  have right : parse (octetsOf "o=\"x;\" ;c=#48 ") ⟨0x2020⟩ =
      .ok ⟨[⟨.string "o" "x;", []⟩, ⟨⟨"c", "H", .binary⟩, []⟩]⟩ := by
    decide +kernel
  have path : parse (octetsOf "/c= a,o=\\41") ⟨0xF030⟩ =
      .ok ⟨[⟨.string "c" " a", [.string "o" "A"]⟩]⟩ := by
    decide +kernel
  have separated := parse_concatenation.1 ⟨0x2020⟩ .ldapV2 (by decide) (by decide) _ _ _ _ left
    (by decide) right (by decide) (by decide)
  have joined := parse_concatenation.2 ⟨0xF030⟩ (by decide) _ _ _ _ path path
  exact ⟨by decide, by decide, left, right, separated.2.1 (by decide), path, joined.1⟩

end Dn

end DirectoryName

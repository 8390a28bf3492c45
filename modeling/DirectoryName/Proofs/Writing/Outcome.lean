import DirectoryName.Proofs.Writing.Name
import Mathlib.Data.List.Basic

namespace DirectoryName

/-! When writing fails.

A flag word may select no notation, an assertion may not be writable, and the notations for
display want the `dc` components at the end of a name to make up a domain. Nothing else is in
the way: every other name is written. -/

namespace NameFlags

theorem formatBits_mod_sixteen (flags : NameFlags) : flags.formatBits.toNat % 16 = 0 := by
  have outside : formatMask &&& 0xF = 0 := by decide
  have none : flags.formatBits &&& 0xF = 0 := by
    rw [formatBits, UInt32.and_assoc, outside, UInt32.and_zero]
  have low : flags.formatBits.toNat &&& 2 ^ 4 - 1 = 0 := by
    rw [← UInt32.toNat_inj, UInt32.toNat_and] at none
    exact none
  rwa [Nat.and_two_pow_sub_one_eq_mod] at low

theorem format?_eq_some_iff (flags : NameFlags) (form : Notation) :
    flags.format? = some form ↔ flags.formatBits = (ofFormat form).bits := by
  constructor
  · intro found
    have same := List.find?_some found
    exact (eq_of_beq same).symm
  · intro same
    rw [format?, same]
    cases form <;> decide

/-- The notations take the format nibbles up to 0x50. -/
theorem format?_eq_none_iff (flags : NameFlags) :
    flags.format? = none ↔ 0x50 < flags.formatBits := by
  have nibble := flags.formatBits_mod_sixteen
  rw [Option.eq_none_iff_forall_ne_some]
  simp only [ne_eq, format?_eq_some_iff, ← UInt32.toNat_inj, UInt32.lt_iff_toNat_lt]
  constructor
  · intro other
    have ldap := other .ldap
    have ldapV3 := other .ldapV3
    have ldapV2 := other .ldapV2
    have dce := other .dce
    have ufn := other .ufn
    have adCanonical := other .adCanonical
    simp only [ofFormat, UInt32.toNat_ofNat, Nat.reducePow, Nat.reduceMod] at *
    omega
  · intro above form same
    rw [same] at above
    revert above
    cases form <;> decide

end NameFlags

namespace Text

theorem toNat_asciiLowerChar (character : Char) :
    (asciiLowerChar character).toNat =
      if 65 ≤ character.toNat ∧ character.toNat ≤ 90 then character.toNat + 32
      else character.toNat := by
  have upper : ('A' ≤ character && character ≤ 'Z') = true ↔
      65 ≤ character.toNat ∧ character.toNat ≤ 90 := by
    rw [Bool.and_eq_true, decide_eq_true_eq, decide_eq_true_eq]
    exact Iff.rfl
  unfold asciiLowerChar
  split
  · next isUpper =>
      have bounds := upper.mp isUpper
      rw [if_pos bounds, Char.ofNat, dif_pos (.inl (by omega))]
      rfl
  · next other => rw [if_neg (mt upper.mpr other)]

theorem asciiLower_eq_dc_iff (text : String) :
    asciiLower text = "dc" ↔ text ∈ ["dc", "dC", "Dc", "DC"] := by
  have dLetter (character : Char) :
      asciiLowerChar character = 'd' ↔ character = 'd' ∨ character = 'D' := by
    simp only [← Char.toNat_inj, toNat_asciiLowerChar, Char.reduceToNat]
    split <;> omega
  have cLetter (character : Char) :
      asciiLowerChar character = 'c' ↔ character = 'c' ∨ character = 'C' := by
    simp only [← Char.toNat_inj, toNat_asciiLowerChar, Char.reduceToNat]
    split <;> omega
  simp only [asciiLower, ← String.toList_inj, String.toList_ofList, List.mem_cons,
    List.not_mem_nil, or_false, String.reduceToList]
  match text.toList with
  | [] | [_] | _ :: _ :: _ :: _ => simp
  | [first, second] =>
      simp only [List.map_cons, List.map_nil, List.cons.injEq, and_true, dLetter, cLetter]
      rw [or_and_right, and_or_left, and_or_left, or_assoc]

end Text

/-- A single assertion of the type `dc`, in any letter case. -/
def Rdn.IsDomainLabel (rdn : Rdn) : Prop :=
  rdn.others = [] ∧ rdn.first.type ∈ ["dc", "dC", "Dc", "DC"]

theorem Rdn.isDomainComponent_iff (rdn : Rdn) :
    rdn.isDomainComponent = true ↔ rdn.IsDomainLabel := by
  simp only [isDomainComponent, isMultiValued, Bool.and_eq_true, Bool.not_not, beq_iff_eq,
    List.isEmpty_iff, Text.asciiLower_eq_dc_iff, IsDomainLabel]

/-- The labels at the end of a name, as many as there are. -/
structure Dn.IsDomain (name : Dn) (run : List Rdn) : Prop where
  suffix : run <:+ name.rdns
  labels : ∀ rdn ∈ run, rdn.IsDomainLabel
  longest : ∀ other, other <:+ name.rdns → (∀ rdn ∈ other, rdn.IsDomainLabel) → other <:+ run

namespace Dn

theorem isDomain_domain (name : Dn) : name.IsDomain name.domain := by
  constructor
  · rw [domain, ← List.reverse_prefix, List.reverse_reverse]
    exact List.takeWhile_prefix _
  · intro rdn member
    rw [domain, List.mem_reverse] at member
    exact rdn.isDomainComponent_iff.mp (List.mem_takeWhile_imp member)
  · intro other suffix labels
    obtain ⟨front, same⟩ := suffix
    have all : ∀ rdn ∈ other.reverse, rdn.isDomainComponent = true := by
      intro rdn member
      exact rdn.isDomainComponent_iff.mpr (labels rdn (List.mem_reverse.mp member))
    rw [domain, ← same, List.reverse_append, List.takeWhile_append_of_pos all,
      List.reverse_append, List.reverse_reverse]
    exact List.suffix_append _ _

/-- A name has one domain. -/
theorem isDomain_iff (name : Dn) (run : List Rdn) : name.IsDomain run ↔ run = name.domain := by
  constructor
  · intro isDomain
    have forth := name.isDomain_domain.longest run isDomain.suffix isDomain.labels
    have back := isDomain.longest name.domain name.isDomain_domain.suffix
      name.isDomain_domain.labels
    exact forth.eq_of_length (Nat.le_antisymm forth.length_le back.length_le)
  · intro same
    rw [same]
    exact name.isDomain_domain

end Dn

/-- Where one step fails, so does the whole list. -/
theorem mapM_eq_error_iff {ε α β : Type} (action : α → Except ε β) (items : List α) :
    (∃ fault, items.mapM action = .error fault) ↔
      ∃ item ∈ items, ∃ fault, action item = .error fault := by
  induction items with
  | nil => simp [pure, Except.pure]
  | cons item items ih =>
      rw [List.exists_mem_cons_iff, ← ih, List.mapM_cons]
      cases action item with
      | error fault => simp [bind, Except.bind]
      | ok value =>
          cases items.mapM action with
          | error fault => simp [bind, Except.bind]
          | ok values => simp [bind, Except.bind, pure, Except.pure]

/-- Text that is empty, or would fall into several labels. -/
def Ava.IsNoLabel (ava : Ava) : Prop :=
  ava.flags.isBinary = false ∧ (ava.value = "" ∨ '.' ∈ ava.value.toList)

theorem Rdn.writeLabel_eq_error_iff (rules : EscapeRules) (rdn : Rdn) :
    (∃ fault, rdn.writeLabel rules = .error fault) ↔ rdn.first.IsNoLabel := by
  unfold writeLabel Ava.IsNoLabel
  split
  · next bad => simpa using bad
  · next good => simpa using good

namespace Dn

theorem writeDomain_eq_error_iff (rules : EscapeRules) (labels : List Rdn) :
    (∃ fault, writeDomain rules labels = .error fault) ↔
      ∃ rdn ∈ labels, rdn.first.IsNoLabel := by
  simp only [writeDomain, Reading.map_eq_error_iff, mapM_eq_error_iff,
    Rdn.writeLabel_eq_error_iff]

theorem writeUfn_eq_error_iff (name : Dn) :
    (∃ fault, name.writeUfn = .error fault) ↔ ∃ rdn ∈ name.domain, rdn.first.IsNoLabel := by
  simp only [writeUfn]
  split
  · next none =>
      rw [List.isEmpty_iff] at none
      simp [none]
  · simp only [Reading.map_eq_error_iff, writeDomain_eq_error_iff]

theorem writeAdCanonical_eq_error_iff (name : Dn) :
    (∃ fault, name.writeAdCanonical = .error fault) ↔
      (∃ rdn ∈ name.domain, rdn.first.IsNoLabel) ∨ name.domain = [] := by
  simp only [writeAdCanonical]
  split
  · next none =>
      rw [List.isEmpty_iff] at none
      simp [none]
  · next some =>
      rw [List.isEmpty_iff] at some
      simp [Reading.map_eq_error_iff, writeDomain_eq_error_iff, some]

/-- What stands in the way of writing a name in the notation of a format nibble. -/
inductive IsRefused (name : Dn) (nibble : UInt32) : Prop where
  | type {rdn : Rdn} {ava : Ava} (component : rdn ∈ name.rdns) (assertion : ava ∈ rdn.avas)
      (invalid : isAttributeType ava.type = false)
  | binary {rdn : Rdn} {ava : Ava} (component : rdn ∈ name.rdns) (assertion : ava ∈ rdn.avas)
      (binary : ava.flags.isBinary = true) (empty : ava.value = "")
  | label {run : List Rdn} {rdn : Rdn} (display : nibble = 0x40 ∨ nibble = 0x50)
      (domain : name.IsDomain run) (member : rdn ∈ run) (text : rdn.first.flags.isBinary = false)
      (unfit : rdn.first.value = "" ∨ '.' ∈ rdn.first.value.toList)
  | noDomain (canonical : nibble = 0x50) (nonempty : name ≠ root) (none : name.IsDomain [])

theorem write_eq_error_iff (form : Notation) (name : Dn) :
    (∃ fault, name.write form = .error fault) ↔
      (form = .ufn ∨ form = .adCanonical) ∧ (∃ rdn ∈ name.domain, rdn.first.IsNoLabel) ∨
        form = .adCanonical ∧ name.domain = [] := by
  cases form with
  | ldap | ldapV3 | ldapV2 | dce => simp [write]
  | ufn => simp [write, writeUfn_eq_error_iff]
  | adCanonical => simp [write, writeAdCanonical_eq_error_iff]

theorem writable_iff_forall (name : Dn) :
    name.Writable ↔ ∀ rdn ∈ name.rdns, ∀ ava ∈ rdn.avas, ¬isAttributeType ava.type = false ∧
      ¬(ava.flags.isBinary = true ∧ ava.value = "") := by
  refine forall₄_congr fun rdn _ ava _ => ?_
  constructor
  · intro writable
    exact ⟨by simp [writable.typed], fun empty => writable.valued empty.1 empty.2⟩
  · intro checked
    exact ⟨by simpa using checked.1, fun binary empty => checked.2 ⟨binary, empty⟩⟩

/-- A name is refused for one of its assertions, or by the notation it is to be written in. -/
theorem isRefused_iff {flags : NameFlags} {form : Notation} (format : flags.format? = some form)
    (name : Dn) :
    name.IsRefused flags.formatBits ↔
      ¬name.Writable ∨ name ≠ root ∧ ∃ fault, name.write form = .error fault := by
  rw [NameFlags.format?_eq_some_iff] at format
  have ufn : flags.formatBits = 0x40 ↔ form = .ufn := by
    rw [format]
    cases form <;> decide
  have adCanonical : flags.formatBits = 0x50 ↔ form = .adCanonical := by
    rw [format]
    cases form <;> decide
  rw [writable_iff_forall, write_eq_error_iff]
  constructor
  · intro refused
    cases refused with
    | type component assertion invalid =>
        exact .inl fun checked => (checked _ component _ assertion).1 invalid
    | binary component assertion binary empty =>
        exact .inl fun checked => (checked _ component _ assertion).2 ⟨binary, empty⟩
    | label display domain member text unfit =>
        rw [isDomain_iff] at domain
        subst domain
        refine .inr ⟨?_, .inl ⟨by rwa [← ufn, ← adCanonical], _, member, text, unfit⟩⟩
        intro empty
        rw [empty] at member
        cases member
    | noDomain canonical nonempty none =>
        rw [isDomain_iff] at none
        exact .inr ⟨nonempty, .inr ⟨adCanonical.mp canonical, none.symm⟩⟩
  · rintro (unwritable | ⟨nonempty, ⟨display, rdn, member, text, unfit⟩ | ⟨canonical, none⟩⟩)
    · push Not at unwritable
      obtain ⟨rdn, component, ava, assertion, fault⟩ := unwritable
      by_cases invalid : isAttributeType ava.type = false
      · exact .type component assertion invalid
      · obtain ⟨binary, empty⟩ := fault invalid
        exact .binary component assertion binary empty
    · exact .label (by rwa [ufn, adCanonical]) name.isDomain_domain member text unfit
    · refine .noDomain (adCanonical.mpr canonical) nonempty ?_
      rw [isDomain_iff, none]

/-- A name that is not refused has a text, and a refused one a fault of its own. -/
theorem build_of_format {flags : NameFlags} {form : Notation}
    (format : flags.format? = some form) (name : Dn) :
    (name.IsRefused flags.formatBits ∧ ∃ fault, name.build flags = .error (.badName fault)) ∨
      (¬name.IsRefused flags.formatBits ∧ ∃ text, name.build flags = .ok text) := by
  simp only [isRefused_iff format, ← fault?_eq_none_iff, build, format]
  cases name.fault? with
  | some fault => simp
  | none =>
      by_cases empty : name.rdns = []
      · have isRoot : name = root := congrArg mk empty
        simp [isRoot, root]
      · have nonempty : name ≠ root := fun isRoot => empty (congrArg rdns isRoot)
        cases written : name.write form with
        | ok text => simp [empty]
        | error fault => simp [empty, nonempty]

theorem build_root {flags : NameFlags} {form : Notation} (format : flags.format? = some form) :
    root.build flags = .ok "" := by
  rw [build, format]
  rfl

/-- Writing fails for the flag word exactly when its nibble selects no notation, otherwise for
the name exactly when that is refused, and it succeeds in all other cases. -/
theorem build_outcome (name : Dn) (flags : NameFlags) :
    ((∃ error, name.build flags = .error error ∧ error.code = ResultCode.paramError) ↔
        0x50 < flags.formatBits) ∧
      ((∃ error, name.build flags = .error error ∧ error.code = ResultCode.encodingError) ↔
        flags.formatBits ≤ 0x50 ∧ name.IsRefused flags.formatBits) ∧
      ((∃ text, name.build flags = .ok text) ↔
        flags.formatBits ≤ 0x50 ∧ ¬name.IsRefused flags.formatBits) ∧
      (flags.formatBits ≤ 0x50 → root.build flags = .ok "") := by
  rw [← UInt32.not_lt, ← NameFlags.format?_eq_none_iff]
  cases format : flags.format? with
  | none =>
      have built : name.build flags = .error (.badFlags (.unknownFormat flags.formatBits)) := by
        rw [build, format]
      simp [built, NameError.code, ResultCode.paramError, ResultCode.encodingError]
  | some form =>
      have rootBuilt := build_root format
      rcases build_of_format format name with ⟨refused, fault, built⟩ | ⟨written, text, built⟩
      · simp [built, refused, rootBuilt, NameError.code, ResultCode.paramError,
          ResultCode.encodingError]
      · simp [built, written, rootBuilt]

theorem build_outcome_dotted_label :
    (∃ error, build ⟨[⟨.string "cn" "x", []⟩, ⟨.string "Dc" "a.b", []⟩]⟩ ⟨0x40⟩ = .error error ∧
        error.code = ResultCode.encodingError) ∧
      (∃ text, build ⟨[⟨.string "cn" "x", []⟩, ⟨.string "Dc" "a.b", []⟩]⟩ ⟨0x30⟩ = .ok text) ∧
      (NameFlags.formatBits ⟨0x50⟩ ≤ 0x50 ∧ root.build ⟨0x50⟩ = .ok "") := by
  have domain : IsDomain ⟨[⟨.string "cn" "x", []⟩, ⟨.string "Dc" "a.b", []⟩]⟩
      [⟨.string "Dc" "a.b", []⟩] := by
    rw [isDomain_iff]
    decide
  have refused := (build_outcome ⟨[⟨.string "cn" "x", []⟩, ⟨.string "Dc" "a.b", []⟩]⟩ ⟨0x40⟩).2.1
  have written := (build_outcome ⟨[⟨.string "cn" "x", []⟩, ⟨.string "Dc" "a.b", []⟩]⟩ ⟨0x30⟩).2.2.1
  refine ⟨refused.mpr ⟨by decide, ?_⟩, written.mpr ⟨by decide, ?_⟩, by decide,
    (build_outcome root ⟨0x50⟩).2.2.2 (by decide)⟩
  · exact .label (by decide) domain List.mem_cons_self (by decide) (by decide)
  · rw [@isRefused_iff ⟨0x30⟩ .dce (by decide), ← fault?_eq_none_iff]
    simp only [write, reduceCtorEq, exists_false, and_false, or_false, not_not]
    decide

end Dn

end DirectoryName

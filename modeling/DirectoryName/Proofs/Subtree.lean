import DirectoryName.Proofs.Cutting
import DirectoryName.Proofs.RoundTrip

namespace DirectoryName

/-! At or below.

A name lies at or below another when taking parents leads there. Its text shows it too: what is
written for the other one ends it behind a comma, or begins it before a slash in path notation.
No value can feign that, for in a value neither a comma nor an equals sign stands without a
backslash, so a comma right before a type and its equals sign separates components. -/

namespace Dn

/-- The name after so many moves to the parent. -/
def ancestor? (name : Dn) : Nat → Option Dn
  | 0 => some name
  | steps + 1 => name.parent?.bind (·.ancestor? steps)

theorem isAtOrBelow_iff (name base : Dn) :
    name.isAtOrBelow base = true ↔ base.rdns <:+ name.rdns :=
  List.isSuffixOf_iff_suffix

theorem isAtOrBelow_iff_ancestor? (name base : Dn) :
    name.isAtOrBelow base = true ↔ ∃ steps, name.ancestor? steps = some base := by
  rw [isAtOrBelow_iff]
  obtain ⟨rdns⟩ := name
  induction rdns with
  | nil =>
      rw [List.suffix_nil]
      constructor
      · intro empty
        exact ⟨0, congrArg (some ∘ mk) empty.symm⟩
      · rintro ⟨_ | steps, reached⟩
        · cases reached
          rfl
        · cases reached
  | cons rdn rdns ih =>
      rw [List.suffix_cons_iff, ih]
      constructor
      · rintro (same | ⟨steps, reached⟩)
        · exact ⟨0, congrArg (some ∘ mk) same.symm⟩
        · exact ⟨steps + 1, reached⟩
      · rintro ⟨_ | steps, reached⟩
        · cases reached
          exact .inl rfl
        · exact .inr ⟨steps, reached⟩

end Dn

/-- No comma and no equals sign stands without a backslash right before it. -/
def Guarded (text : List Char) : Prop :=
  ∀ front next rest, text = front ++ next :: rest → next = ',' ∨ next = '=' →
    front.getLast? = some '\\'

namespace Guarded

theorem of_free {text : List Char} (free : ∀ next ∈ text, next ≠ ',' ∧ next ≠ '=') :
    Guarded text := by
  intro front next rest same special
  have other := free next (by simp [same])
  rcases special with comma | equals
  · exact absurd comma other.1
  · exact absurd equals other.2

theorem append {first second : List Char} (firstGuarded : Guarded first)
    (secondGuarded : Guarded second) : Guarded (first ++ second) := by
  intro front next rest same special
  rcases List.append_eq_append_iff.mp same with ⟨middle, rfl, inSecond⟩ | ⟨middle, rfl, inFirst⟩
  · rw [List.getLast?_append, secondGuarded middle next rest inSecond special]
    rfl
  · cases middle with
    | nil =>
        have := secondGuarded [] next rest inFirst.symm special
        cases this
    | cons first middle =>
        cases inFirst
        exact firstGuarded front next middle rfl special

theorem escaped (character : Char) : Guarded ['\\', character] := by
  intro front next rest same special
  match front with
  | [] =>
      cases same
      revert special
      decide
  | [backslash] =>
      cases same
      rfl
  | _ :: _ :: front => simp at same

theorem of_sealed {text : List Char} (isSealed : Text.Sealed [',', '='] text) :
    Guarded text := by
  induction isSealed with
  | nil => exact of_free (by simp)
  | @bare character rest other _ _ ih =>
      have free : Guarded [character] := of_free (by simpa using other)
      exact free.append ih
  | escaped character _ ih => exact (escaped character).append ih

end Guarded

theorem Ava.writeValue_guarded (ava : Ava) : Guarded (ava.writeValue .ldap) :=
  .of_sealed ((ava.writeValue_sealed EscapeRules.ldap_seal).mono (by decide))

/-- Neither a delimiter of names nor a backslash, so perhaps a type. -/
def IsBareWord (word : List Char) : Prop :=
  ',' ∉ word ∧ '+' ∉ word ∧ '\\' ∉ word

theorem isBareWord_of_typed {type : String} (typed : isAttributeType type = true) :
    IsBareWord type.toList := by
  have absent {character : Char} {octet : UInt8}
      (encoded : octet ∈ String.utf8EncodeChar character)
      (other : ¬(Octet.isKeyOctet octet = true ∨ octet = Octet.dot)) :
      character ∉ type.toList := by
    intro member
    exact other (key_or_dot_of_typed typed octet (List.mem_flatMap.mpr ⟨character, member, encoded⟩))
  exact ⟨@absent _ Octet.comma (by decide) (by decide), @absent _ Octet.plus (by decide) (by decide),
    @absent _ Octet.backslash (by decide) (by decide)⟩

theorem append_cons_eq_append_cons {first second front rest : List α} {separator next : α}
    (same : first ++ separator :: second = front ++ next :: rest) :
    (∃ middle, front = first ++ separator :: middle ∧ second = middle ++ next :: rest) ∨
      (front = first ∧ next = separator ∧ rest = second) ∨
      ∃ middle, first = front ++ next :: middle ∧ rest = middle ++ separator :: second := by
  rcases List.append_eq_append_iff.mp same with ⟨middle, within, behind⟩ | ⟨middle, within, behind⟩
  · cases middle with
    | nil =>
        rw [List.nil_append, List.cons.injEq] at behind
        exact .inr (.inl ⟨by simpa using within, behind.1.symm, behind.2.symm⟩)
    | cons head middle =>
        rw [List.cons_append, List.cons.injEq] at behind
        exact .inl ⟨middle, by rw [within, behind.1], behind.2⟩
  · cases middle with
    | nil =>
        rw [List.nil_append, List.cons.injEq] at behind
        exact .inr (.inl ⟨by simpa using within.symm, behind.1, behind.2⟩)
    | cons head middle =>
        rw [List.cons_append, List.cons.injEq] at behind
        exact .inr (.inr ⟨middle, by rw [within, behind.1], behind.2⟩)

/-- Nowhere does a comma stand right before a word and an equals sign. -/
def IsUnbroken (text : List Char) : Prop :=
  ∀ front word rest, IsBareWord word → text ≠ front ++ ',' :: (word ++ '=' :: rest)

namespace IsUnbroken

theorem of_guarded {text : List Char} (guarded : Guarded text) : IsUnbroken text := by
  intro front word rest bare same
  have backslash := guarded (front ++ ',' :: word) '=' rest (by simp [same]) (.inr rfl)
  have last : (front ++ ',' :: word).getLast? = (',' :: word).getLast? := by
    simp [List.getLast?_append, List.getLast?_cons]
  rw [last] at backslash
  rcases List.mem_cons.mp (List.mem_of_getLast? backslash) with comma | inWord
  · cases comma
  · exact bare.2.2 inWord

/-- A type and an equals sign in front hold no comma. -/
theorem typed {type text : List Char} (bare : IsBareWord type) (unbroken : IsUnbroken text) :
    IsUnbroken (type ++ '=' :: text) := by
  intro front word rest wordBare same
  rcases append_cons_eq_append_cons same with
    ⟨middle, _, inText⟩ | ⟨_, comma, _⟩ | ⟨middle, inType, _⟩
  · exact unbroken middle word rest wordBare inText
  · cases comma
  · exact bare.1 (by simp [inType])

/-- A plus sign does not belong to a word. -/
theorem joined {first second : List Char} (firstUnbroken : IsUnbroken first)
    (secondUnbroken : IsUnbroken second) : IsUnbroken (first ++ '+' :: second) := by
  intro front word rest bare same
  rcases append_cons_eq_append_cons same with
    ⟨middle, _, inSecond⟩ | ⟨_, comma, _⟩ | ⟨middle, inFirst, behind⟩
  · exact secondUnbroken middle word rest bare inSecond
  · cases comma
  rcases append_cons_eq_append_cons behind with
    ⟨after, equals, _⟩ | ⟨_, plus, _⟩ | ⟨after, plus, _⟩
  · rw [equals] at inFirst
    exact firstUnbroken front word after bare inFirst
  · cases plus
  · exact bare.2.1 (by simp [plus])

end IsUnbroken

theorem Ava.write_unbroken {ava : Ava} (typed : isAttributeType ava.type = true) :
    IsUnbroken (ava.write (writeValue .ldap)) :=
  .typed (isBareWord_of_typed typed) (.of_guarded ava.writeValue_guarded)

theorem Rdn.write_unbroken {rdn : Rdn}
    (typed : ∀ ava ∈ rdn.avas, isAttributeType ava.type = true) :
    IsUnbroken (rdn.write ['+'] (Ava.write (Ava.writeValue .ldap))) := by
  obtain ⟨first, others⟩ := rdn
  induction others generalizing first with
  | nil =>
      rw [Rdn.write, avas, List.map_singleton, List.intercalate_singleton]
      exact Ava.write_unbroken (typed first List.mem_cons_self)
  | cons next others ih =>
      rw [avas, List.forall_mem_cons] at typed
      rw [Rdn.write, avas, List.map_cons, List.map_cons, List.intercalate_cons_cons,
        List.append_assoc]
      exact (Ava.write_unbroken typed.1).joined (ih next typed.2)

theorem intercalate_append {separator : List α} {first second : List (List α)}
    (firstSome : first ≠ []) (secondSome : second ≠ []) :
    separator.intercalate (first ++ second) =
      separator.intercalate first ++ separator ++ separator.intercalate second := by
  induction first with
  | nil => exact absurd rfl firstSome
  | cons part first ih =>
      cases first with
      | nil =>
          rw [List.singleton_append, List.intercalate_cons_of_ne_nil secondSome,
            List.intercalate_singleton]
      | cons next first =>
          rw [List.cons_append, List.cons_append, List.intercalate_cons_cons, ← List.cons_append,
            ih (List.cons_ne_nil _ _), List.intercalate_cons_cons]
          simp only [List.append_assoc]

/-- A comma right before a word and an equals sign separates two of the joined texts. -/
theorem exists_suffix_of_intercalate {write : α → List Char} {items : List α}
    {front word rest : List Char} (unbroken : ∀ item ∈ items, IsUnbroken (write item))
    (bare : IsBareWord word)
    (same : [','].intercalate (items.map write) = front ++ ',' :: (word ++ '=' :: rest)) :
    ∃ later, later <:+ items ∧ [','].intercalate (later.map write) = word ++ '=' :: rest := by
  induction items generalizing front with
  | nil => simp at same
  | cons item items ih =>
      rw [List.forall_mem_cons] at unbroken
      cases items with
      | nil =>
          rw [List.map_singleton, List.intercalate_singleton] at same
          exact absurd same (unbroken.1 front word rest bare)
      | cons next items =>
          rw [List.map_cons, List.map_cons, List.intercalate_cons_cons, List.append_assoc,
            List.singleton_append] at same
          rcases append_cons_eq_append_cons same with
            ⟨middle, _, behind⟩ | ⟨_, _, behind⟩ | ⟨middle, within, behind⟩
          · obtain ⟨later, suffix, spelled⟩ := ih unbroken.2 behind
            exact ⟨later, suffix.trans (List.suffix_cons _ _), spelled⟩
          · exact ⟨next :: items, List.suffix_cons _ _, behind.symm⟩
          -- The comma is not in the first text: the word ends before the separator behind it.
          rcases append_cons_eq_append_cons behind with
            ⟨after, equals, _⟩ | ⟨_, comma, _⟩ | ⟨after, comma, _⟩
          · rw [equals] at within
            exact absurd within (unbroken.1 front word after bare)
          · cases comma
          · exact absurd (by simp [comma]) bare.1

namespace Dn

variable {flags : NameFlags} {name base : Dn}

theorem writeLdap_begins {rdn : Rdn} {rdns : List Rdn} :
    ∃ rest, writeLdap ⟨rdn :: rdns⟩ = rdn.first.type.toList ++ '=' :: rest := by
  obtain ⟨first, others⟩ := rdn
  have begins : ∃ rest, Rdn.write ['+'] (Ava.write (Ava.writeValue .ldap)) ⟨first, others⟩ =
      first.type.toList ++ '=' :: rest := by
    rw [Rdn.write, Rdn.avas, List.map_cons]
    cases others with
    | nil => exact ⟨_, List.intercalate_singleton⟩
    | cons next others =>
        rw [List.map_cons, List.intercalate_cons_cons, Ava.write, List.append_assoc,
          List.append_assoc]
        exact ⟨_, rfl⟩
  obtain ⟨rest, begins⟩ := begins
  rw [writeLdap, List.map_cons, begins]
  cases rdns with
  | nil => exact ⟨_, List.intercalate_singleton⟩
  | cons next rdns =>
      rw [List.map_cons, List.intercalate_cons_cons, List.append_assoc, List.append_assoc]
      exact ⟨_, rfl⟩

theorem build_ldapV3 (format : flags.format? = some .ldapV3) (writable : name.Writable) :
    name.build flags = .ok (String.ofList name.writeLdap) := by
  simp only [build, format, (fault?_eq_none_iff name).mpr writable]
  split
  · next empty =>
      rw [writeLdap, List.isEmpty_iff.mp empty]
      rfl
  · rfl

theorem build_dce (format : flags.format? = some .dce) (writable : name.Writable) :
    name.build flags = .ok (String.ofList name.writeDce) := by
  simp only [build, format, (fault?_eq_none_iff name).mpr writable]
  split
  · next empty =>
      rw [writeDce, List.isEmpty_iff.mp empty]
      rfl
  · rfl

/-- What is written for a name ends with what is written for the names above it. -/
theorem writeLdap_of_suffix (below : base.rdns <:+ name.rdns) (nonempty : base ≠ root) :
    name.writeLdap = base.writeLdap ∨
      ∃ front, name.writeLdap = front ++ ',' :: base.writeLdap := by
  obtain ⟨lower, same⟩ := below
  have someBase : base.rdns.map (Rdn.write ['+'] (Ava.write (Ava.writeValue .ldap))) ≠ [] :=
    fun empty => nonempty (congrArg mk (List.map_eq_nil_iff.mp empty))
  rw [writeLdap, writeLdap, ← same, List.map_append]
  cases lower with
  | nil => exact .inl rfl
  | cons rdn lower =>
      rw [intercalate_append (by simp) someBase, List.append_assoc]
      exact .inr ⟨_, rfl⟩

theorem suffix_of_writeLdap {front : List Char} (writable : name.Writable)
    (baseWritable : base.Writable) (nonempty : base ≠ root)
    (same : name.writeLdap = front ++ ',' :: base.writeLdap) :
    ∃ above : Dn, above.rdns <:+ name.rdns ∧ above.writeLdap = base.writeLdap := by
  obtain ⟨rdns⟩ := base
  cases rdns with
  | nil => exact absurd rfl nonempty
  | cons rdn rdns =>
      obtain ⟨rest, begins⟩ := @writeLdap_begins rdn rdns
      rw [begins] at same ⊢
      have typed := (baseWritable rdn List.mem_cons_self rdn.first List.mem_cons_self).typed
      obtain ⟨above, suffix, written⟩ := exists_suffix_of_intercalate
        (fun rdn member => Rdn.write_unbroken fun ava inside => (writable rdn member ava inside).typed)
        (isBareWord_of_typed typed) same
      exact ⟨⟨above⟩, suffix, written⟩

/-- The same in path notation, from the other side. -/
theorem writeDce_of_suffix (below : base.rdns <:+ name.rdns) :
    name.writeDce = base.writeDce ∨ ∃ rest, name.writeDce = base.writeDce ++ '/' :: rest := by
  obtain ⟨lower, same⟩ := below
  rw [writeDce, writeDce, ← same, List.reverse_append, List.flatMap_append]
  rcases List.eq_nil_or_concat lower with rfl | ⟨lower, rdn, rfl⟩
  · exact .inl (List.append_nil _)
  · rw [List.concat_eq_append, List.reverse_append, List.reverse_singleton, List.singleton_append,
      List.flatMap_cons, List.cons_append]
    exact .inr ⟨_, rfl⟩

end Dn

/-- Before a slash a path is read as if it ended there. -/
theorem Reading.readPath_append {rules : Rules} {rdns : List Rdn} {text rest : List UInt8}
    (dce : rules.dialect = .dce) (spelled : PathSpelling rules rdns text) :
    readPath rules (text ++ Octet.slash :: rest) =
      (readPath rules (Octet.slash :: rest)).map (rdns ++ ·) := by
  induction spelled with
  | nil =>
      rw [List.nil_append]
      cases readPath rules (Octet.slash :: rest) <;> rfl
  | @cons rdn rdns first later spelled others ih =>
      have ends : Follows rules.dialect.endsRdn (later ++ Octet.slash :: rest) := by
        have slash : rules.dialect.endsRdn Octet.slash := by
          rw [dce, Dialect.endsRdn_dce]
        cases others with
        | nil => exact (follows_cons _ _ _).mpr slash
        | cons _ _ => exact (follows_cons _ _ _).mpr slash
      rw [List.cons_append, List.append_assoc, readPath_cons, if_pos rfl,
        readAvas_complete spelled ends]
      simp only [bind, Except.bind, ih]
      cases readPath rules (Octet.slash :: rest) <;> rfl

theorem PathSpelling.prefix_of_append {rules : Rules} {above rdns : List Rdn}
    {text rest : List UInt8} (dce : rules.dialect = .dce) (spelled : PathSpelling rules above text)
    (all : PathSpelling rules rdns (text ++ Octet.slash :: rest)) : above <+: rdns := by
  have read := Reading.readPath_complete dce all
  rw [Reading.readPath_append dce spelled] at read
  cases later : Reading.readPath rules (Octet.slash :: rest) with
  | error stuck =>
      rw [later] at read
      cases read
  | ok others =>
      rw [later] at read
      cases read
      exact List.prefix_append above others

/-- A valid type, and flags that reading gives such a value when it was spelled for them. -/
def Ava.IsTidy (ava : Ava) : Prop :=
  isAttributeType ava.type = true ∧
    (ava.flags = .string ∨ ava.flags = .binary ∧ ava.value ≠ "" ∨
      ava.flags = .nonprintable ∧ ∃ octet ∈ octetsOf ava.value, ¬(0x20 ≤ octet ∧ octet ≤ 0x7E))

instance (ava : Ava) : Decidable ava.IsTidy :=
  inferInstanceAs (Decidable (_ ∧ (_ ∨ _ ∧ _ ∨ _ ∧ ∃ octet ∈ octetsOf ava.value, _)))

theorem Ava.IsTidy.stable {ava : Ava} (tidy : ava.IsTidy) : ava.Stable := by
  obtain ⟨type, value, flags⟩ := ava
  obtain ⟨typed, rfl | ⟨rfl, nonempty⟩ | ⟨rfl, octet, inside, outside⟩⟩ := tidy
  · have noBinary : ¬ValueFlags.string.isBinary = true := by decide
    have unchanged : ValueFlags.string.readBack value = .string := rfl
    exact ⟨⟨typed, fun binary => absurd binary noBinary⟩, unchanged⟩
  · have binary : ValueFlags.binary.isBinary = true := by decide
    exact ⟨⟨typed, fun _ => nonempty⟩, if_pos binary⟩
  · have noBinary : ¬ValueFlags.nonprintable.isBinary = true := by decide
    exact ⟨⟨typed, fun binary => absurd binary noBinary⟩,
      ValueFlags.readBack_nonprintable inside outside⟩

namespace Dn

variable {flags : NameFlags} {name base : Dn}

/-- Stable names that are written alike are the same. -/
theorem eq_of_build {form : Notation} {text : String}
    (stable : ∀ rdn ∈ name.rdns, ∀ ava ∈ rdn.avas, ava.Stable)
    (baseStable : ∀ rdn ∈ base.rdns, ∀ ava ∈ rdn.avas, ava.Stable)
    (format : flags.format? = some form) (readable : form.isReadable = true)
    (built : name.build flags = .ok text) (baseBuilt : base.build flags = .ok text) :
    name = base := by
  obtain ⟨_, sameText, read⟩ := build_of_stable stable format readable
  obtain ⟨_, baseText, baseRead⟩ := build_of_stable baseStable format readable
  rw [built, Except.ok.injEq] at sameText
  rw [baseBuilt, Except.ok.injEq] at baseText
  rw [← sameText] at read
  rw [← baseText, read, Except.ok.injEq] at baseRead
  exact baseRead

/-- A name ends in the components of another exactly when their texts show it. -/
theorem suffix_iff_ldapV3 (format : flags.format? = some .ldapV3)
    (stable : ∀ rdn ∈ name.rdns, ∀ ava ∈ rdn.avas, ava.Stable)
    (baseStable : ∀ rdn ∈ base.rdns, ∀ ava ∈ rdn.avas, ava.Stable) (nonempty : base ≠ root) :
    base.rdns <:+ name.rdns ↔
      name.writeLdap = base.writeLdap ∨
        ∃ front, name.writeLdap = front ++ ',' :: base.writeLdap := by
  have unique {other : Dn} (otherStable : ∀ rdn ∈ other.rdns, ∀ ava ∈ rdn.avas, ava.Stable)
      (same : other.writeLdap = base.writeLdap) : other = base := by
    have built := build_ldapV3 format (writable_of_stable otherStable)
    rw [same] at built
    exact eq_of_build otherStable baseStable format (by decide) built
      (build_ldapV3 format (writable_of_stable baseStable))
  constructor
  · intro below
    exact writeLdap_of_suffix below nonempty
  · rintro (same | ⟨front, same⟩)
    · obtain rfl := unique stable same
      exact List.suffix_rfl
    · obtain ⟨above, suffix, written⟩ :=
        suffix_of_writeLdap (writable_of_stable stable) (writable_of_stable baseStable) nonempty same
      have found := unique (fun rdn member => stable rdn (suffix.mem member)) written
      rw [← found]
      exact suffix

theorem suffix_iff_dce (format : flags.format? = some .dce)
    (stable : ∀ rdn ∈ name.rdns, ∀ ava ∈ rdn.avas, ava.Stable)
    (baseStable : ∀ rdn ∈ base.rdns, ∀ ava ∈ rdn.avas, ava.Stable) :
    base.rdns <:+ name.rdns ↔
      name.writeDce = base.writeDce ∨ ∃ rest, name.writeDce = base.writeDce ++ '/' :: rest := by
  have spelled {other : Dn} (stable : ∀ rdn ∈ other.rdns, ∀ ava ∈ rdn.avas, ava.Stable) :
      PathSpelling ⟨.dce, flags.strictness⟩ other.rdns.reverse (Utf8.encode other.writeDce) := by
    obtain ⟨text, built, read⟩ := build_of_stable stable format (by decide)
    rw [build_dce format (writable_of_stable stable), Except.ok.injEq] at built
    rw [← built, parseText, parse_eq_ok_iff format rfl, octetsOf, String.toList_ofList] at read
    exact read
  constructor
  · exact writeDce_of_suffix
  · intro shown
    rw [← List.reverse_prefix]
    rcases shown with same | ⟨rest, same⟩
    · have nameSpelled := spelled stable
      rw [same] at nameSpelled
      have built := build_dce format (writable_of_stable stable)
      rw [same] at built
      obtain rfl := eq_of_build stable baseStable format (by decide) built
        (build_dce format (writable_of_stable baseStable))
      exact List.prefix_rfl
    · have nameSpelled := spelled stable
      rw [same, Utf8.encode_append] at nameSpelled
      exact (spelled baseStable).prefix_of_append rfl nameSpelled

/-- At or below another name lie the names from which taking parents leads to it, and of such
names as reading leaves, those whose text ends or begins with the text of the other. -/
theorem isAtOrBelow_views :
    (∀ name base : Dn,
      name.isAtOrBelow base = true ↔ ∃ steps, name.ancestor? steps = some base) ∧
    (∀ name : Dn, name.isAtOrBelow name = true) ∧
    (∀ name base : Dn, name.isAtOrBelow base = true → base.isAtOrBelow name = true →
      name = base) ∧
    (∀ name base top : Dn, name.isAtOrBelow base = true → base.isAtOrBelow top = true →
      name.isAtOrBelow top = true) ∧
    (∀ name : Dn, name.isAtOrBelow root = true) ∧
    ∀ name base : Dn, (∀ rdn ∈ name.rdns, ∀ ava ∈ rdn.avas, ava.IsTidy) →
      (∀ rdn ∈ base.rdns, ∀ ava ∈ rdn.avas, ava.IsTidy) → base ≠ root →
      ∀ v3 dce : NameFlags, v3.format? = some .ldapV3 → dce.format? = some .dce →
        ∃ nameText baseText namePath basePath : String,
          name.build v3 = .ok nameText ∧ base.build v3 = .ok baseText ∧
          name.build dce = .ok namePath ∧ base.build dce = .ok basePath ∧
          (name.isAtOrBelow base = true ↔
            nameText = baseText ∨ ∃ front, nameText = front ++ "," ++ baseText) ∧
          (name.isAtOrBelow base = true ↔
            namePath = basePath ∨ ∃ rest, namePath = basePath ++ "/" ++ rest) := by
  refine ⟨isAtOrBelow_iff_ancestor?, ?_, ?_, ?_, ?_, ?_⟩
  · intro name
    exact (isAtOrBelow_iff name name).mpr List.suffix_rfl
  · intro name base below above
    rw [isAtOrBelow_iff] at below above
    exact congrArg mk (above.eq_of_length_le below.length_le)
  · intro name base top below above
    rw [isAtOrBelow_iff] at below above ⊢
    exact above.trans below
  · intro name
    rw [isAtOrBelow_iff]
    exact List.nil_suffix
  · intro name base tidy baseTidy nonempty v3 dce v3Format dceFormat
    have stable {other : Dn} (tidy : ∀ rdn ∈ other.rdns, ∀ ava ∈ rdn.avas, ava.IsTidy) :
        ∀ rdn ∈ other.rdns, ∀ ava ∈ rdn.avas, ava.Stable :=
      fun rdn member ava inside => (tidy rdn member ava inside).stable
    have writable := writable_of_stable (stable tidy)
    have baseWritable := writable_of_stable (stable baseTidy)
    refine ⟨_, _, _, _, build_ldapV3 v3Format writable, build_ldapV3 v3Format baseWritable,
      build_dce dceFormat writable, build_dce dceFormat baseWritable, ?_, ?_⟩
    · rw [isAtOrBelow_iff, suffix_iff_ldapV3 v3Format (stable tidy) (stable baseTidy) nonempty]
      simp only [← String.toList_inj, String.toList_append, String.toList_ofList]
      constructor
      · rintro (same | ⟨front, same⟩)
        · exact .inl same
        · exact .inr ⟨String.ofList front, by simp [same]⟩
      · rintro (same | ⟨front, same⟩)
        · exact .inl same
        · exact .inr ⟨front.toList, by simp [same]⟩
    · rw [isAtOrBelow_iff, suffix_iff_dce dceFormat (stable tidy) (stable baseTidy)]
      simp only [← String.toList_inj, String.toList_append, String.toList_ofList]
      constructor
      · rintro (same | ⟨rest, same⟩)
        · exact .inl same
        · exact .inr ⟨String.ofList rest, by simp [same]⟩
      · rintro (same | ⟨rest, same⟩)
        · exact .inl same
        · exact .inr ⟨rest.toList, by simp [same]⟩

/-- A value may imitate a component of the other name, and its text betrays that. -/
theorem isAtOrBelow_views_feigned :
    (∃ nameText baseText namePath basePath : String,
      build ⟨[⟨.string "cn" "x,o=b/c", []⟩]⟩ ⟨0x10⟩ = .ok nameText ∧
      build ⟨[⟨.string "o" "b/c", []⟩]⟩ ⟨0x10⟩ = .ok baseText ∧
      build ⟨[⟨.string "cn" "x,o=b/c", []⟩]⟩ ⟨0x30⟩ = .ok namePath ∧
      build ⟨[⟨.string "o" "b/c", []⟩]⟩ ⟨0x30⟩ = .ok basePath ∧
      ¬(nameText = baseText ∨ ∃ front, nameText = front ++ "," ++ baseText) ∧
      ¬(namePath = basePath ∨ ∃ rest, namePath = basePath ++ "/" ++ rest)) ∧
    ∃ nameText baseText namePath basePath : String,
      build ⟨[⟨.string "cn" "x", []⟩, ⟨⟨"o", "\x01/", .nonprintable⟩, [⟨"c", "H", .binary⟩]⟩]⟩
        ⟨0x10⟩ = .ok nameText ∧
      build ⟨[⟨⟨"o", "\x01/", .nonprintable⟩, [⟨"c", "H", .binary⟩]⟩]⟩ ⟨0x10⟩ = .ok baseText ∧
      build ⟨[⟨.string "cn" "x", []⟩, ⟨⟨"o", "\x01/", .nonprintable⟩, [⟨"c", "H", .binary⟩]⟩]⟩
        ⟨0x30⟩ = .ok namePath ∧
      build ⟨[⟨⟨"o", "\x01/", .nonprintable⟩, [⟨"c", "H", .binary⟩]⟩]⟩ ⟨0x30⟩ = .ok basePath ∧
      (nameText = baseText ∨ ∃ front, nameText = front ++ "," ++ baseText) ∧
      (namePath = basePath ∨ ∃ rest, namePath = basePath ++ "/" ++ rest) := by
  constructor
  · obtain ⟨nameText, baseText, namePath, basePath, named, based, path, above, text, prefixed⟩ :=
      isAtOrBelow_views.2.2.2.2.2 ⟨[⟨.string "cn" "x,o=b/c", []⟩]⟩ ⟨[⟨.string "o" "b/c", []⟩]⟩
        (by decide) (by decide) (by decide) ⟨0x10⟩ ⟨0x30⟩ (by decide) (by decide)
    exact ⟨nameText, baseText, namePath, basePath, named, based, path, above,
      fun shown => absurd (text.mpr shown) (by decide),
      fun shown => absurd (prefixed.mpr shown) (by decide)⟩
  · obtain ⟨nameText, baseText, namePath, basePath, named, based, path, above, text, prefixed⟩ :=
      isAtOrBelow_views.2.2.2.2.2
        ⟨[⟨.string "cn" "x", []⟩, ⟨⟨"o", "\x01/", .nonprintable⟩, [⟨"c", "H", .binary⟩]⟩]⟩
        ⟨[⟨⟨"o", "\x01/", .nonprintable⟩, [⟨"c", "H", .binary⟩]⟩]⟩
        (by decide) (by decide) (by decide) ⟨0x10⟩ ⟨0x30⟩ (by decide) (by decide)
    exact ⟨nameText, baseText, namePath, basePath, named, based, path, above,
      text.mp (by decide), prefixed.mp (by decide)⟩

end Dn

end DirectoryName

import DirectoryName.Proofs.AttributeType
import DirectoryName.Proofs.Writing.Escape

namespace DirectoryName

/-! Written names as spellings.

What is written spells the name that was meant, up to the flags of its values: a value
is read back as text, and as nonprintable text only where an octet had to be written as
a pair. -/

/-- The flags with which a written value is read. -/
def ValueFlags.readBack (flags : ValueFlags) (value : String) : ValueFlags :=
  if flags.isBinary then .binary
  else if flags.isNonprintable && (octetsOf value).any (!Octet.isPrintable ·) then .nonprintable
  else .string

namespace Ava

def readBack (ava : Ava) : Ava where
  type := ava.type
  value := ava.value
  flags := ava.flags.readBack ava.value

/-- A valid type, and a value where it is written as a hexadecimal string. -/
structure Writable (ava : Ava) : Prop where
  typed : isAttributeType ava.type = true
  valued : ava.flags.isBinary = true → ava.value ≠ ""

theorem fault?_eq_none_iff (ava : Ava) : ava.fault? = none ↔ ava.Writable := by
  unfold fault?
  constructor
  · intro none
    split at none
    · cases none
    next typed =>
    split at none
    · cases none
    next valued =>
    refine ⟨by simpa using typed, fun binary empty => ?_⟩
    simp [binary, empty] at valued
  · intro writable
    rw [if_neg (by simp [writable.typed]), if_neg]
    simpa using writable.valued

end Ava

def Rdn.readBack (rdn : Rdn) : Rdn where
  first := rdn.first.readBack
  others := rdn.others.map Ava.readBack

namespace Dn

def readBack (name : Dn) : Dn where
  rdns := name.rdns.map Rdn.readBack

/-- Every assertion can be written. -/
def Writable (name : Dn) : Prop :=
  ∀ rdn ∈ name.rdns, ∀ ava ∈ rdn.avas, ava.Writable

theorem fault?_eq_none_iff (name : Dn) : name.fault? = none ↔ name.Writable := by
  simp only [fault?, List.findSome?_eq_none_iff, Ava.fault?_eq_none_iff, Writable]

end Dn

theorem Written.flagsOf {rules : Rules} {reserved : List UInt8} {flags : ValueFlags}
    {value : String} {pieces : List Piece} {text : List UInt8}
    (written : Written rules reserved flags.isNonprintable value.toList pieces text)
    (noBinary : ¬flags.isBinary = true) : Piece.FlagsOf pieces (flags.readBack value) := by
  have outside : ∀ octet, (!Octet.isPrintable octet) = true ↔ ¬(0x20 ≤ octet ∧ octet ≤ 0x7E) := by
    intro octet
    rw [Bool.not_eq_true', ← Bool.not_eq_true, Octet.isPrintable_iff]
  rw [ValueFlags.readBack, if_neg noBinary]
  split
  · next hex =>
      simp only [Bool.and_eq_true, List.any_eq_true, outside] at hex
      obtain ⟨nonprintable, octet, member, unprintable⟩ := hex
      exact .inl ⟨rfl, octet, written.covered nonprintable octet member unprintable, unprintable⟩
  · next plain =>
      simp only [Bool.and_eq_true, List.any_eq_true, outside] at plain
      refine .inr ⟨rfl, fun octet pair => ?_⟩
      have member : octet ∈ octetsOf value := by
        rw [octetsOf, ← written.decodes]
        exact List.mem_map_of_mem pair
      have nonprintable := written.paired octet pair
      grind

namespace Ava

theorem hexString_spelled (rules : Rules) {ava : Ava} (binary : ava.flags.isBinary = true)
    (nonempty : ava.value ≠ "") :
    ValueSpelling rules ⟨ava.value, ava.flags.readBack ava.value⟩
      (Utf8.encode (Escape.hexString ava.value.toList)) := by
  have hash : String.utf8EncodeChar '#' = [Octet.hash] := by decide
  have spelled := hexSpelling_hexPairs (octetsOf ava.value)
  have digits := spelled.eq_nil_iff
  rw [octetsOf_eq_nil_iff] at digits
  rw [ValueFlags.readBack, if_pos binary, Escape.hexString, Utf8.encode_cons, hash]
  exact .hexString (mt digits.mp nonempty) spelled

theorem writeValue_spelled (rules : Rules) (ava : Ava) (writable : ava.Writable) :
    ValueSpelling rules ⟨ava.value, ava.flags.readBack ava.value⟩
      (Utf8.encode (ava.writeValue rules.dialect.escapeRules)) := by
  unfold writeValue
  split
  · next binary => exact hexString_spelled rules binary (writable.valued binary)
  · next noBinary =>
      obtain ⟨pieces, written, noHash, noEdgeSpaces⟩ :=
        escapeFrom_written rules ava.flags.isNonprintable true ava.value.toList
      exact .plain written.spelled (noHash rfl)
        (fun ldap => ⟨(noEdgeSpaces ldap).1 rfl, (noEdgeSpaces ldap).2⟩) written.decodes
        (written.flagsOf noBinary)

theorem writeQuotable_spelled {rules : Rules} (lenient : rules.dialect = .lenient) (ava : Ava)
    (writable : ava.Writable) :
    ValueSpelling rules ⟨ava.value, ava.flags.readBack ava.value⟩
      (Utf8.encode ava.writeQuotable) := by
  unfold writeQuotable
  split
  · next quoted =>
      have noBinary : ¬ava.flags.isBinary = true := by
        simp only [Bool.and_eq_true, Bool.not_eq_true'] at quoted
        simp [quoted.1]
      obtain ⟨pieces, written⟩ :=
        quoteChars_written rules ava.flags.isNonprintable ava.value.toList (by simp [lenient])
      have quote : String.utf8EncodeChar '"' = [Octet.quote] := by decide
      have close : Utf8.encode ['"'] = [Octet.quote] := by decide
      rw [Escape.quote, Utf8.encode_cons, Utf8.encode_append, quote, close]
      exact .quoted lenient written.spelled written.decodes (written.flagsOf noBinary)
  · have spelled := writeValue_spelled rules ava writable
    rw [lenient] at spelled
    exact spelled

/-- A written assertion: its type, an equals sign and its value, without padding. -/
theorem write_spelled {rules : Rules} {value : Ava → List Char} {ava : Ava}
    (typed : isAttributeType ava.type = true)
    (spelled : ValueSpelling rules ⟨ava.value, ava.flags.readBack ava.value⟩
      (Utf8.encode (value ava))) :
    AvaSpelling rules ava.readBack (Utf8.encode (ava.write value)) := by
  have equals : String.utf8EncodeChar '=' = [Octet.equals] := by decide
  have none := Reading.padding_nil rules
  have written := AvaSpelling.intro none (typeSpelling_self typed) none none spelled none
  rw [write, Utf8.encode_append, Utf8.encode_cons, equals]
  rw [List.nil_append, List.nil_append, List.append_nil, List.append_nil] at written
  exact written

theorem write_begins {value : Ava → List Char} {ava : Ava}
    (typed : isAttributeType ava.type = true) :
    BeginsWithKey (Utf8.encode (ava.write value)) := by
  rw [write, Utf8.encode_append]
  exact BeginsWithKey.append (@typeSpelling_self .dce _ typed).begins _

end Ava

namespace Rdn

theorem write_spelled {rules : Rules} {joint : Char} {write : Ava → List Char} {rdn : Rdn}
    (encoded : String.utf8EncodeChar joint = [rules.dialect.joint])
    (spelled : ∀ ava ∈ rdn.avas, AvaSpelling rules ava.readBack (Utf8.encode (write ava))) :
    RdnSpelling rules rdn.readBack (Utf8.encode (rdn.write [joint] write)) := by
  obtain ⟨first, others⟩ := rdn
  induction others generalizing first with
  | nil =>
      rw [Rdn.write, avas, List.map_singleton, List.intercalate_singleton]
      exact .single (spelled first (by simp [avas]))
  | cons next others ih =>
      rw [avas, List.forall_mem_cons] at spelled
      have written := RdnSpelling.more spelled.1 (ih next spelled.2)
      rw [Rdn.write, avas, List.map_cons, List.map_cons, List.intercalate_cons_cons,
        Utf8.encode_append, Utf8.encode_append, Utf8.encode_cons, encoded, List.append_assoc]
      exact written

theorem write_begins {joint : List Char} {write : Ava → List Char} {rdn : Rdn}
    (begins : BeginsWithKey (Utf8.encode (write rdn.first))) :
    BeginsWithKey (Utf8.encode (rdn.write joint write)) := by
  rw [Rdn.write, avas, List.map_cons]
  cases rdn.others with
  | nil =>
      rw [List.map_nil, List.intercalate_singleton]
      exact begins
  | cons next others =>
      rw [List.map_cons, List.intercalate_cons_cons, Utf8.encode_append, Utf8.encode_append,
        List.append_assoc]
      exact begins.append _

end Rdn

/-- Components with commas between them. -/
theorem rdnsSpelling_intercalate {rules : Rules} {write : Rdn → List Char} {rdns : List Rdn}
    (nonempty : rdns ≠ [])
    (spelled : ∀ rdn ∈ rdns, RdnSpelling rules rdn.readBack (Utf8.encode (write rdn)) ∧
      BeginsWithKey (Utf8.encode (write rdn))) :
    RdnsSpelling rules (rdns.map Rdn.readBack) (Utf8.encode ([','].intercalate (rdns.map write))) ∧
      BeginsWithKey (Utf8.encode ([','].intercalate (rdns.map write))) := by
  induction rdns with
  | nil => exact absurd rfl nonempty
  | cons rdn rdns ih =>
      rw [List.forall_mem_cons] at spelled
      obtain ⟨⟨first, begins⟩, others⟩ := spelled
      cases rdns with
      | nil =>
          rw [List.map_singleton, List.map_singleton, List.intercalate_singleton]
          exact ⟨.single first, begins⟩
      | cons next rdns =>
          have comma : Utf8.encode [','] = [Octet.comma] := by decide
          obtain ⟨restSpelled, restBegins⟩ := ih (List.cons_ne_nil _ _) others
          rw [@List.map_cons _ _ write, @List.map_cons _ _ write, List.intercalate_cons_cons,
            Utf8.encode_append, Utf8.encode_append, comma, List.append_assoc]
          refine ⟨.more first (.inl rfl) ?_ restSpelled, begins.append _⟩
          exact fun _ space => restBegins.no_space _ space rfl

/-- Components with a slash in front of each. -/
theorem pathSpelling_flatMap {rules : Rules} {write : Rdn → List Char} {rdns : List Rdn}
    (spelled : ∀ rdn ∈ rdns, RdnSpelling rules rdn.readBack (Utf8.encode (write rdn))) :
    PathSpelling rules (rdns.map Rdn.readBack)
      (Utf8.encode (rdns.flatMap fun rdn => '/' :: write rdn)) := by
  induction rdns with
  | nil => exact .nil
  | cons rdn rdns ih =>
      have slash : String.utf8EncodeChar '/' = [Octet.slash] := by decide
      rw [List.forall_mem_cons] at spelled
      rw [List.flatMap_cons, Utf8.encode_append, Utf8.encode_cons, slash]
      exact .cons spelled.1 (ih spelled.2)

namespace Dn

/-- A checked name with components, written with commas. -/
theorem ldapSpelling_write {rules : Rules} {value : Ava → List Char} {name : Dn}
    (ldap : rules.dialect ≠ .dce) (nonempty : name.rdns ≠ []) (writable : name.Writable)
    (spelled : ∀ ava : Ava, ava.Writable →
      ValueSpelling rules ⟨ava.value, ava.flags.readBack ava.value⟩ (Utf8.encode (value ava))) :
    LdapSpelling rules name.readBack
      (Utf8.encode ([','].intercalate (name.rdns.map (Rdn.write ['+'] (Ava.write value))))) := by
  have plus : String.utf8EncodeChar '+' = [rules.dialect.joint] := by
    cases dialect : rules.dialect with
    | lenient | strictV3 => decide
    | dce => exact absurd dialect ldap
  refine .rdns (rdnsSpelling_intercalate nonempty fun rdn member => ⟨?_, ?_⟩).1
  · exact Rdn.write_spelled plus fun ava inside =>
      Ava.write_spelled (writable rdn member ava inside).typed
        (spelled ava (writable rdn member ava inside))
  · exact Rdn.write_begins (Ava.write_begins (writable rdn member _ List.mem_cons_self).typed)

theorem dceSpelling_write {rules : Rules} {name : Dn} (dce : rules.dialect = .dce)
    (writable : name.Writable) :
    DceSpelling rules name.readBack (Utf8.encode name.writeDce) := by
  have comma : String.utf8EncodeChar ',' = [rules.dialect.joint] := by
    rw [dce]
    decide
  rw [DceSpelling, readBack, ← List.map_reverse]
  refine pathSpelling_flatMap fun rdn member => Rdn.write_spelled comma fun ava inside => ?_
  have checked := writable rdn (List.mem_reverse.mp member) ava inside
  have spelled := Ava.writeValue_spelled rules ava checked
  rw [dce] at spelled
  exact Ava.write_spelled checked.typed spelled

/-- A name that can be written is written as one of its spellings, however strict. -/
theorem build_spelled {flags : NameFlags} {form : Notation} {dialect : Dialect} {name : Dn}
    (format : flags.format? = some form) (readable : form.dialect? = some dialect)
    (writable : name.Writable) (strictness : Strictness) :
    ∃ text, name.build flags = .ok text ∧
      NameSpelling ⟨dialect, strictness⟩ name.readBack (octetsOf text) := by
  unfold build
  simp only [format, (fault?_eq_none_iff name).mpr writable]
  split
  · next empty =>
      obtain ⟨rdns⟩ := name
      obtain rfl := List.isEmpty_iff.mp empty
      refine ⟨"", rfl, ?_⟩
      cases dialect with
      | lenient | strictV3 => exact .root (fun _ member => by cases member) fun _ => rfl
      | dce => exact .nil
  next nonempty =>
  rw [List.isEmpty_iff] at nonempty
  cases form with
  | ldap | ldapV3 =>
      cases readable
      refine ⟨_, rfl, ?_⟩
      rw [octetsOf_ofList]
      exact ldapSpelling_write (by simp) nonempty writable (Ava.writeValue_spelled _)
  | ldapV2 =>
      cases readable
      refine ⟨_, rfl, ?_⟩
      rw [octetsOf_ofList]
      exact ldapSpelling_write (by simp) nonempty writable (Ava.writeQuotable_spelled rfl)
  | dce =>
      cases readable
      refine ⟨_, rfl, ?_⟩
      rw [octetsOf_ofList]
      exact dceSpelling_write rfl writable
  | ufn | adCanonical => cases readable

end Dn

end DirectoryName

import DirectoryName.Proofs.Reading.Type
import DirectoryName.Proofs.Reading.Value

namespace DirectoryName

/-! Names are read as they are spelled.

An assertion ends where its value does, a component where its last assertion does, and
the text where its last component does, so each reader leaves exactly what the grammar
leaves. -/

theorem ValueSpelling.no_space {rules : Rules} {value : Value} {text : List UInt8}
    (spelled : ValueSpelling rules value text) (ldap : rules.dialect ≠ .dce) :
    Reading.Follows (· ≠ Octet.space) text := by
  cases spelled with
  | hexString _ _ => exact (Reading.follows_cons _ _ _).mpr (by decide)
  | quoted _ _ _ _ => exact (Reading.follows_cons _ _ _).mpr (by decide)
  | @plain text flags pieces spelling spelled _ noEdgeSpaces _ _ =>
      cases pieces with
      | nil =>
          cases spelled
          exact Reading.follows_nil _
      | cons piece pieces =>
          intro octet member
          rcases spelled.head with ⟨begin, rfl, _, head⟩ | ⟨_, head⟩
          · rw [head] at member
            cases member
            intro space
            subst space
            exact (noEdgeSpaces ldap).1 rfl
          · rw [head] at member
            cases member
            decide

namespace Dialect

theorem joinsAvas_iff (dialect : Dialect) (octet : UInt8) :
    dialect.joinsAvas octet = true ↔ octet = dialect.joint := by
  cases dialect <;> simp only [joinsAvas, joint, beq_iff_eq]

theorem separatesRdns_iff {dialect : Dialect} (ldap : dialect ≠ .dce) (octet : UInt8) :
    dialect.separatesRdns octet = true ↔
      octet = Octet.comma ∨ octet = Octet.semicolon ∧ dialect = .lenient := by
  cases dialect with
  | lenient => simp [separatesRdns]
  | strictV3 => simp [separatesRdns]
  | dce => exact absurd rfl ldap

/-- The octets at which a component ends. -/
def endsRdn (dialect : Dialect) (octet : UInt8) : Prop :=
  dialect.endsValue octet = true ∧ octet ≠ dialect.joint

theorem endsRdn_iff_separates {dialect : Dialect} (ldap : dialect ≠ .dce) (octet : UInt8) :
    dialect.endsRdn octet ↔ dialect.separatesRdns octet = true := by
  cases dialect with
  | lenient | strictV3 =>
      simp only [endsRdn, endsValue, joint, separatesRdns, Bool.or_eq_true, beq_iff_eq]
      grind [Octet.comma, Octet.plus, Octet.semicolon]
  | dce => exact absurd rfl ldap

theorem endsRdn_dce (octet : UInt8) : Dialect.dce.endsRdn octet ↔ octet = Octet.slash := by
  simp only [endsRdn, endsValue, joint, Bool.or_eq_true, beq_iff_eq]
  grind [Octet.slash, Octet.comma]

theorem endsValue_joint (dialect : Dialect) : dialect.endsValue dialect.joint = true := by
  cases dialect <;> rfl

end Dialect

namespace Reading

theorem passEquals_eq_ok_iff {text rest : List UInt8} :
    passEquals text = .ok rest ↔ text = Octet.equals :: rest := by
  cases text with
  | nil => simp [passEquals]
  | cons next after =>
      by_cases equals : next = Octet.equals
      · simp [passEquals, equals]
      · simp [passEquals, equals]

theorem readAva_sound {rules : Rules} {text rest : List UInt8} {ava : Ava}
    (read : readAva rules text = .ok (ava, rest)) :
    ∃ used, text = used ++ rest ∧ AvaSpelling rules ava used ∧
      Follows (rules.dialect.endsValue · = true) rest := by
  simp only [readAva, bind_eq_ok_iff, Prod.exists, skipPadding_eq_ok_iff,
    passEquals_eq_ok_iff] at read
  obtain ⟨afterPadding, ⟨beforeType, rfl, typePadded, _⟩, type, afterType, typeRead, _,
    ⟨beforeEquals, rfl, equalsPadded, _⟩, _, rfl, opened,
    ⟨beforeValue, rfl, valuePadded, noSpace⟩, value, _, valueRead, result⟩ := read
  cases result
  obtain ⟨typeText, rfl, typed⟩ := readType_sound typeRead
  obtain ⟨valueText, afterValue, rfl, valued, endPadded, follows⟩ :=
    readValue_sound noSpace valueRead
  refine ⟨_, ?_, .intro typePadded typed equalsPadded valuePadded valued endPadded, follows⟩
  simp only [List.append_assoc, List.cons_append]

/-- Padding on both sides of an empty value is padding in front of it. -/
theorem exists_padding_before {rules : Rules} {value : Value}
    {before text after rest : List UInt8} (spelled : ValueSpelling rules value text)
    (beforePadded : Padding rules before) (afterPadded : Padding rules after)
    (follows : Follows (rules.dialect.endsValue · = true) rest) :
    ∃ front back, before ++ text ++ after = front ++ (text ++ back) ∧ Padding rules front ∧
      Padding rules back ∧
        (rules.dialect ≠ .dce → Follows (· ≠ Octet.space) (text ++ (back ++ rest))) := by
  by_cases empty : text = []
  · subst empty
    refine ⟨before ++ after, [], by simp, padding_append beforePadded afterPadded,
      padding_nil rules, fun _ => ?_⟩
    exact follows.mono fun _ ends => (not_begins_of_endsValue ends).1
  · refine ⟨before, after, List.append_assoc _ _ _, beforePadded, afterPadded, fun ldap => ?_⟩
    exact (spelled.no_space ldap).append fun none => absurd none empty

/-- Behind a type and an equals sign a value is read. -/
theorem readAva_opening {rules : Rules} {type : String}
    {beforeType typeText afterType beforeValue text : List UInt8}
    (typePadded : Padding rules beforeType) (typed : TypeSpelling rules.dialect type typeText)
    (equalsPadded : Padding rules afterType) (valuePadded : Padding rules beforeValue)
    (noSpace : rules.dialect ≠ .dce → Follows (· ≠ Octet.space) text) :
    readAva rules (beforeType ++ typeText ++ afterType ++
        Octet.equals :: (beforeValue ++ text)) = do
      let (value, rest) ← readValue rules text
      return (⟨type, value.text, value.flags⟩, rest) := by
  have typeEnds : ∀ after, Follows endsType (afterType ++ Octet.equals :: after) := fun after =>
    Follows.append (fun _ member => .inl (equalsPadded.1 _ (List.mem_of_mem_head? member)))
      fun _ => (follows_cons _ _ _).mpr (.inr rfl)
  have typeBegins := (typed.begins.append (afterType ++ Octet.equals :: (beforeValue ++ text))).no_space
  have equals : Follows (· ≠ Octet.space) (Octet.equals :: (beforeValue ++ text)) :=
    (follows_cons _ _ _).mpr (by decide)
  rw [List.append_assoc, List.append_assoc, readAva,
    skipPadding_append _ typePadded fun _ => typeBegins]
  simp only [bind, Except.bind, readType_complete typed (typeEnds _),
    skipPadding_append _ equalsPadded fun _ => equals, passEquals, if_true,
    skipPadding_append _ valuePadded noSpace]

theorem readAva_complete {rules : Rules} {used rest : List UInt8} {ava : Ava}
    (spelled : AvaSpelling rules ava used)
    (follows : Follows (rules.dialect.endsValue · = true) rest) :
    readAva rules (used ++ rest) = .ok (ava, rest) := by
  obtain ⟨typePadded, typed, equalsPadded, valuePadded, valued, endPadded⟩ := spelled
  obtain ⟨front, back, same, frontPadded, backPadded, noSpace⟩ :=
    exists_padding_before valued valuePadded endPadded follows
  have read := readAva_opening typePadded typed equalsPadded frontPadded noSpace
  rw [readValue_complete valued backPadded follows] at read
  rw [same]
  simp only [List.append_assoc, List.cons_append] at read ⊢
  exact read

/-! The recursions of the readers, without the proofs that their termination needs. -/

theorem readAvas_bind (rules : Rules) (text : List UInt8) :
    readAvas rules text = do
      let (ava, rest) ← readAva rules text
      match rest with
      | [] => return (⟨ava, []⟩, [])
      | next :: after =>
          if rules.dialect.joinsAvas next then do
            let (rdn, rest) ← readAvas rules after
            return (⟨ava, rdn.avas⟩, rest)
          else
            return (⟨ava, []⟩, next :: after) := by
  rw [readAvas]
  split
  · next read =>
      rw [read]
      rfl
  · next read =>
      rw [read]
      rfl
  · next octet after read =>
      simp only [read, bind, Except.bind]
      split
      · cases readAvas rules after <;> rfl
      · rfl

theorem readRdns_bind (rules : Rules) (text : List UInt8) :
    readRdns rules text = (do
      let (rdn, rest) ← readAvas rules text
      match rest with
      | [] => return [rdn]
      | next :: after =>
          if rules.dialect.separatesRdns next then
            if rules.strictness.noSpaceAfterSeparator && after.head? == some Octet.space then
              .error ⟨.spaceAfterSeparator, after⟩
            else do
              let others ← readRdns rules after
              return rdn :: others
          else
            .error ⟨.octetAfterRdn next, next :: after⟩) := by
  rw [readRdns]
  split
  · next read =>
      rw [read]
      rfl
  · next read =>
      rw [read]
      rfl
  · next octet after read =>
      simp only [read, bind, Except.bind]
      split
      · split
        · rfl
        · cases readRdns rules after <;> rfl
      · rfl

theorem readPath_cons (rules : Rules) (next : UInt8) (after : List UInt8) :
    readPath rules (next :: after) =
      if next = Octet.slash then do
        let (rdn, rest) ← readAvas rules after
        let others ← readPath rules rest
        return rdn :: others
      else
        .error ⟨.slashExpected, next :: after⟩ := by
  rw [readPath]
  split
  · split
    · next read =>
        rw [read]
        rfl
    · next rest read =>
        simp only [read, bind, Except.bind]
        cases readPath rules rest <;> rfl
  · rfl

theorem readAvas_sound {rules : Rules} {text rest : List UInt8} {rdn : Rdn}
    (read : readAvas rules text = .ok (rdn, rest)) :
    ∃ used, text = used ++ rest ∧ RdnSpelling rules rdn used ∧
      Follows rules.dialect.endsRdn rest := by
  fun_induction readAvas rules text generalizing rdn with
  | case1 => cases read
  | case2 text ava avaRead =>
      cases read
      obtain ⟨used, same, spelled, _⟩ := readAva_sound avaRead
      exact ⟨used, same, .single spelled, follows_nil _⟩
  | case3 => cases read
  | case4 text ava next after avaRead joins more tail deeper ih =>
      cases read
      obtain ⟨first, rfl, spelled, _⟩ := readAva_sound avaRead
      obtain ⟨used, rfl, others, follows⟩ := ih deeper
      obtain rfl := (Dialect.joinsAvas_iff _ _).mp joins
      exact ⟨_, (List.append_assoc _ (_ :: _) _).symm, .more spelled others, follows⟩
  | case5 text ava next after avaRead noJoint =>
      cases read
      obtain ⟨used, same, spelled, follows⟩ := readAva_sound avaRead
      rw [follows_cons] at follows
      rw [Dialect.joinsAvas_iff] at noJoint
      exact ⟨used, same, .single spelled, (follows_cons _ _ _).mpr ⟨follows, noJoint⟩⟩

theorem readAvas_single {rules : Rules} {text rest : List UInt8} {ava : Ava}
    (read : readAva rules text = .ok (ava, rest))
    (stops : Follows (rules.dialect.joinsAvas · = false) rest) :
    readAvas rules text = .ok (⟨ava, []⟩, rest) := by
  rw [readAvas_bind, read]
  cases rest with
  | nil => rfl
  | cons next after =>
      rw [follows_cons] at stops
      exact if_neg (by simp [stops])

theorem readAvas_more {rules : Rules} {text after rest : List UInt8} {ava : Ava} {rdn : Rdn}
    {next : UInt8} (read : readAva rules text = .ok (ava, next :: after))
    (joins : rules.dialect.joinsAvas next = true)
    (others : readAvas rules after = .ok (rdn, rest)) :
    readAvas rules text = .ok (⟨ava, rdn.avas⟩, rest) := by
  rw [readAvas_bind, read]
  simp only [bind, Except.bind, joins, if_true, others]
  rfl

theorem readAvas_complete {rules : Rules} {used rest : List UInt8} {rdn : Rdn}
    (spelled : RdnSpelling rules rdn used) (follows : Follows rules.dialect.endsRdn rest) :
    readAvas rules (used ++ rest) = .ok (rdn, rest) := by
  induction spelled with
  | single spelled =>
      refine readAvas_single (readAva_complete spelled (follows.mono fun _ ends => ends.1)) ?_
      refine follows.mono fun octet ends => ?_
      rw [← Bool.not_eq_true, Dialect.joinsAvas_iff]
      exact ends.2
  | more spelled _ ih =>
      rw [List.append_assoc, List.cons_append]
      refine readAvas_more (readAva_complete spelled ?_) ?_ ih
      · exact (follows_cons _ _ _).mpr (Dialect.endsValue_joint _)
      · exact (Dialect.joinsAvas_iff _ _).mpr rfl

/-- A component is not made of padding alone. -/
theorem equals_mem_of_spelled {rules : Rules} {rdn : Rdn} {text : List UInt8}
    (spelled : RdnSpelling rules rdn text) : Octet.equals ∈ text := by
  cases spelled with
  | single spelled | more spelled _ =>
      cases spelled
      simp

theorem readRdns_sound {rules : Rules} {text : List UInt8} {rdns : List Rdn}
    (ldap : rules.dialect ≠ .dce) (read : readRdns rules text = .ok rdns) :
    RdnsSpelling rules rdns text := by
  fun_induction readRdns rules text generalizing rdns with
  | case1 => cases read
  | case2 text rdn rdnRead =>
      cases read
      obtain ⟨used, rfl, spelled, _⟩ := readAvas_sound rdnRead
      rw [List.append_nil]
      exact .single spelled
  | case3 => cases read
  | case4 => cases read
  | case5 text rdn next after rdnRead separates noSpace others deeper ih =>
      cases read
      obtain ⟨used, rfl, spelled, _⟩ := readAvas_sound rdnRead
      refine .more spelled ((Dialect.separatesRdns_iff ldap _).mp separates) ?_ (ih deeper)
      intro strict space
      exact noSpace (by simp [strict, space])
  | case6 => cases read

theorem readRdns_single {rules : Rules} {text : List UInt8} {rdn : Rdn}
    (read : readAvas rules text = .ok (rdn, [])) : readRdns rules text = .ok [rdn] := by
  rw [readRdns_bind, read]
  rfl

theorem readRdns_more {rules : Rules} {text after : List UInt8} {rdn : Rdn} {rdns : List Rdn}
    {next : UInt8} (read : readAvas rules text = .ok (rdn, next :: after))
    (separates : rules.dialect.separatesRdns next = true)
    (noSpace : rules.strictness.noSpaceAfterSeparator → after.head? ≠ some Octet.space)
    (others : readRdns rules after = .ok rdns) : readRdns rules text = .ok (rdn :: rdns) := by
  have noFault : ¬(rules.strictness.noSpaceAfterSeparator &&
      after.head? == some Octet.space) = true := by simpa using noSpace
  rw [readRdns_bind, read]
  simp only [bind, Except.bind, separates, if_true, if_neg noFault, others]
  rfl

theorem readRdns_complete {rules : Rules} {text : List UInt8} {rdns : List Rdn}
    (ldap : rules.dialect ≠ .dce) (spelled : RdnsSpelling rules rdns text) :
    readRdns rules text = .ok rdns := by
  induction spelled with
  | single spelled =>
      have read := readAvas_complete spelled (follows_nil _)
      rw [List.append_nil] at read
      exact readRdns_single read
  | more spelled separates noSpace _ ih =>
      have separates := (Dialect.separatesRdns_iff ldap _).mpr separates
      refine readRdns_more (readAvas_complete spelled ?_) separates noSpace ih
      exact (follows_cons _ _ _).mpr ((Dialect.endsRdn_iff_separates ldap _).mpr separates)

theorem readPath_sound {rules : Rules} {text : List UInt8} {rdns : List Rdn}
    (read : readPath rules text = .ok rdns) : PathSpelling rules rdns text := by
  fun_induction readPath rules text generalizing rdns with
  | case1 =>
      cases read
      exact .nil
  | case2 => cases read
  | case3 => cases read
  | case4 after rdn rest rdnRead others deeper ih =>
      cases read
      obtain ⟨used, rfl, spelled, _⟩ := readAvas_sound rdnRead
      exact .cons spelled (ih deeper)
  | case5 => cases read

theorem readPath_complete {rules : Rules} {text : List UInt8} {rdns : List Rdn}
    (dce : rules.dialect = .dce) (spelled : PathSpelling rules rdns text) :
    readPath rules text = .ok rdns := by
  induction spelled with
  | nil => rw [readPath]
  | @cons rdn rdns first rest spelled others ih =>
      have ends : Follows rules.dialect.endsRdn rest := by
        cases others with
        | nil => exact follows_nil _
        | cons _ _ =>
            rw [follows_cons, dce, Dialect.endsRdn_dce]
      have rdnRead := readAvas_complete spelled ends
      rw [readPath_cons, if_pos rfl, rdnRead]
      simp only [bind, Except.bind, ih]
      rfl

theorem isRootText_iff {rules : Rules} {text : List UInt8} :
    isRootText rules text = true ↔
      (∀ octet ∈ text, octet = Octet.space) ∧
        (rules.dialect = .dce ∨ rules.strictness.noEdgeSpaces = true → text = []) := by
  cases text with
  | nil => simp [isRootText]
  | cons first others =>
      simp only [isRootText, Dialect.padsWithSpaces, List.isEmpty_cons, Bool.false_or,
        Bool.and_eq_true, decide_eq_true_eq, Bool.not_eq_true', List.all_eq_true, beq_iff_eq,
        reduceCtorEq, imp_false, not_or, Bool.not_eq_true]
      exact and_comm

theorem not_isRootText_of_spelled {rules : Rules} {rdns : List Rdn} {text : List UInt8}
    (spelled : RdnsSpelling rules rdns text) : ¬isRootText rules text = true := by
  have equals : Octet.equals ∈ text := by
    cases spelled with
    | single spelled => exact equals_mem_of_spelled spelled
    | more spelled _ _ _ => exact List.mem_append_left _ (equals_mem_of_spelled spelled)
  intro root
  exact absurd ((isRootText_iff.mp root).1 _ equals) (by decide)

theorem readName_eq_readRdns {rules : Rules} {text : List UInt8} (ldap : rules.dialect ≠ .dce)
    (content : ¬isRootText rules text = true) :
    readName rules text = (readRdns rules text).map Dn.mk := by
  rw [readName, if_neg content]
  cases dialect : rules.dialect with
  | lenient | strictV3 => rfl
  | dce => exact absurd dialect ldap

theorem readName_ldap_iff {rules : Rules} {text : List UInt8} {name : Dn}
    (ldap : rules.dialect ≠ .dce) :
    readName rules text = .ok name ↔ LdapSpelling rules name text := by
  constructor
  · intro read
    by_cases root : isRootText rules text = true
    · rw [readName, if_pos root] at read
      cases read
      obtain ⟨spaces, strict⟩ := isRootText_iff.mp root
      exact .root spaces fun noSpaces => strict (.inr noSpaces)
    · rw [readName_eq_readRdns ldap root] at read
      cases rdnsRead : readRdns rules text with
      | error stuck => rw [rdnsRead] at read; cases read
      | ok rdns =>
          rw [rdnsRead] at read
          cases read
          exact .rdns (readRdns_sound ldap rdnsRead)
  · intro spelled
    cases spelled with
    | root spaces strict =>
        have empty : rules.dialect = .dce ∨ rules.strictness.noEdgeSpaces = true → text = [] := by
          intro bare
          cases bare with
          | inl dce => exact absurd dce ldap
          | inr noSpaces => exact strict noSpaces
        rw [readName, if_pos (isRootText_iff.mpr ⟨spaces, empty⟩)]
    | rdns spelled =>
        rw [readName_eq_readRdns ldap (not_isRootText_of_spelled spelled),
          readRdns_complete ldap spelled]
        rfl

theorem readName_eq_readPath {rules : Rules} {text : List UInt8} (dce : rules.dialect = .dce) :
    readName rules text = (readPath rules text).map fun rdns => ⟨rdns.reverse⟩ := by
  rw [readName]
  split
  · next root =>
      rw [(isRootText_iff.mp root).2 (.inl dce), readPath]
      rfl
  · simp only [dce]

theorem readName_dce_iff {rules : Rules} {text : List UInt8} {name : Dn}
    (dce : rules.dialect = .dce) :
    readName rules text = .ok name ↔ DceSpelling rules name text := by
  rw [readName_eq_readPath dce]
  constructor
  · intro read
    cases pathRead : readPath rules text with
    | error stuck => rw [pathRead] at read; cases read
    | ok rdns =>
        rw [pathRead] at read
        cases read
        rw [DceSpelling, List.reverse_reverse]
        exact readPath_sound pathRead
  · intro spelled
    rw [readPath_complete dce spelled]
    simp only [Except.map, List.reverse_reverse]

end Reading

theorem nameSpelling_ldap {rules : Rules} {name : Dn} {text : List UInt8}
    (ldap : rules.dialect ≠ .dce) : NameSpelling rules name text ↔ LdapSpelling rules name text := by
  unfold NameSpelling
  cases dialect : rules.dialect with
  | lenient | strictV3 => rfl
  | dce => exact absurd dialect ldap

theorem nameSpelling_dce {rules : Rules} {name : Dn} {text : List UInt8}
    (dce : rules.dialect = .dce) : NameSpelling rules name text ↔ DceSpelling rules name text := by
  unfold NameSpelling
  rw [dce]

namespace Reading

/-- Exactly the spellings of a name are read, as that name. -/
theorem readName_eq_ok_iff {rules : Rules} {text : List UInt8} {name : Dn} :
    readName rules text = .ok name ↔ NameSpelling rules name text := by
  by_cases dce : rules.dialect = .dce
  · rw [nameSpelling_dce dce]
    exact readName_dce_iff dce
  · rw [nameSpelling_ldap dce]
    exact readName_ldap_iff dce

end Reading

theorem NameFlags.rules_eq {flags : NameFlags} {form : Notation} {dialect : Dialect}
    (format : flags.format? = some form) (readable : form.dialect? = some dialect) :
    flags.rules = .ok ⟨dialect, flags.strictness⟩ := by
  simp only [rules, format, readable]

namespace Dn

theorem parse_eq_ok_iff {flags : NameFlags} {form : Notation} {dialect : Dialect}
    {input : List UInt8} {name : Dn} (format : flags.format? = some form)
    (readable : form.dialect? = some dialect) :
    parse input flags = .ok name ↔ NameSpelling ⟨dialect, flags.strictness⟩ name input := by
  simp only [parse, NameFlags.rules_eq format readable, ← Reading.readName_eq_ok_iff]
  cases Reading.readName ⟨dialect, flags.strictness⟩ input with
  | ok read => simp
  | error stuck => simp

/-- Whatever is read was written in a notation that can be read. -/
theorem exists_dialect_of_parse {input : List UInt8} {flags : NameFlags} {name : Dn}
    (read : parse input flags = .ok name) :
    ∃ form dialect, flags.format? = some form ∧ form.dialect? = some dialect := by
  cases format : flags.format? with
  | none => simp [parse, NameFlags.rules, format] at read
  | some form =>
      cases readable : form.dialect? with
      | none => simp [parse, NameFlags.rules, format, readable] at read
      | some dialect => exact ⟨form, dialect, rfl, readable⟩

/-- In the LDAP notations exactly the spellings of a name are read, as that name. -/
theorem parse_eq_ok_iff_ldapSpelling {flags : NameFlags} {form : Notation}
    (format : flags.format? = some form)
    (family : form = .ldap ∨ form = .ldapV3 ∨ form = .ldapV2) (input : List UInt8) (name : Dn) :
    parse input flags = .ok name ↔
      LdapSpelling ⟨if form = .ldapV3 then .strictV3 else .lenient, flags.strictness⟩ name
        input := by
  rcases family with rfl | rfl | rfl
  · exact parse_eq_ok_iff format rfl
  · exact parse_eq_ok_iff format rfl
  · exact parse_eq_ok_iff format rfl

theorem ldapSpelling_quoted_oid :
    NameFlags.format? ⟨0x80000020⟩ = some .ldapV2 ∧
      LdapSpelling ⟨.lenient, NameFlags.strictness ⟨0x80000020⟩⟩
        ⟨[⟨⟨"2.5.4.3", "a, ", .string⟩, [⟨"cn", "H", .binary⟩]⟩,
          ⟨⟨"o", " x\u00C9", .nonprintable⟩, []⟩, ⟨⟨"ou", "", .string⟩, []⟩]⟩
        (octetsOf " Oid.2.5.4.3 = \"a,\\20\" + cn=#48; o=\\ x\\C3\\89 ,ou=") :=
  ⟨by decide, (@parse_eq_ok_iff_ldapSpelling _ .ldapV2 (by decide) (by decide) _ _).mp
    (by decide +kernel)⟩

/-- The same in path notation. -/
theorem parse_eq_ok_iff_dceSpelling {flags : NameFlags} (format : flags.format? = some .dce)
    (input : List UInt8) (name : Dn) :
    parse input flags = .ok name ↔ DceSpelling ⟨.dce, flags.strictness⟩ name input :=
  parse_eq_ok_iff format rfl

theorem dceSpelling_edge_spaces :
    NameFlags.format? ⟨0xF030⟩ = some .dce ∧
      DceSpelling ⟨.dce, NameFlags.strictness ⟨0xF030⟩⟩
        ⟨[⟨⟨"o", "/;\u00C9 ", .nonprintable⟩, []⟩,
          ⟨⟨"2.5.4.3", " a", .string⟩, [⟨"cn", "H", .binary⟩]⟩]⟩
        (octetsOf "/2.5.4.3= a,cn=#48/o=\\/;\\C3\\89 ") :=
  ⟨by decide, (parse_eq_ok_iff_dceSpelling (by decide) _ _).mp (by decide +kernel)⟩

end Dn

end DirectoryName

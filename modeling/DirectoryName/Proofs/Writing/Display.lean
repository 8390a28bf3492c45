import DirectoryName.Proofs.Cutting
import DirectoryName.Proofs.Joining
import DirectoryName.Proofs.Writing.Outcome
import DirectoryName.Text.Digit
import Mathlib.Data.List.Forall2

namespace DirectoryName

/-! The notations for display keep every value.

Types are lost in them, but no value is: their texts, cut at the separators, give one text for
each value, in the order of the name or of the path, and from that text the value is read or
unescaped. A label of the domain holds no dot of its own, so dots need no protection there. -/

namespace Text

/-- The octets that escaped text stands for: behind a backslash two hexadecimal digits are an
octet, and any other character is itself. -/
def unescape : List Char → List UInt8
  | [] => []
  | '\\' :: first :: second :: rest =>
      match digitValue? 16 first, digitValue? 16 second with
      | some high, some low => UInt8.ofNat (high * 16 + low) :: unescape rest
      | _, _ => String.utf8EncodeChar first ++ unescape (second :: rest)
  | ['\\', character] => String.utf8EncodeChar character
  | character :: rest => String.utf8EncodeChar character ++ unescape rest

theorem unescape_bare {character : Char} (noBackslash : character ≠ '\\') (rest : List Char) :
    unescape (character :: rest) = String.utf8EncodeChar character ++ unescape rest := by
  rw [unescape]
  · exact fun _ _ _ same => absurd same noBackslash
  · exact fun _ same => absurd same noBackslash

theorem unescape_escaped {character : Char} (noDigit : digitValue? 16 character = none)
    (rest : List Char) :
    unescape ('\\' :: character :: rest) =
      String.utf8EncodeChar character ++ unescape rest := by
  cases rest with
  | nil => rw [unescape, unescape, List.append_nil]
  | cons next rest => rw [unescape, noDigit]

theorem unescape_hexPair (octet : UInt8) (rest : List Char) :
    unescape ('\\' :: (Octet.hexPair octet ++ rest)) = octet :: unescape rest := by
  have digits : ∀ octet : UInt8,
      digitValue? 16 (Octet.hexDigit (octet / 16)) = some (octet.toNat / 16) ∧
        digitValue? 16 (Octet.hexDigit (octet % 16)) = some (octet.toNat % 16) :=
    Octet.forall_of_codes (by decide +kernel)
  obtain ⟨high, low⟩ := digits octet
  rw [Octet.hexPair, List.cons_append, List.singleton_append, unescape, high, low]
  simp only [Nat.div_add_mod', UInt8.ofNat_toNat]

theorem unescape_hexPairs (character : Char) (rest : List Char) :
    unescape (Escape.hexPairs character ++ rest) =
      String.utf8EncodeChar character ++ unescape rest := by
  rw [Escape.hexPairs]
  induction String.utf8EncodeChar character with
  | nil => rfl
  | cons octet octets ih =>
      rw [List.flatMap_cons, List.append_assoc, List.cons_append, unescape_hexPair, ih,
        List.cons_append]

variable {rules : EscapeRules}

theorem unescape_escapeChar (backslash : '\\' ∈ rules.specials)
    (noDigits : ∀ special ∈ rules.specials, digitValue? 16 special = none)
    (hexed first last : Bool) (character : Char) (rest : List Char) :
    unescape (Escape.escapeChar rules hexed first last character ++ rest) =
      String.utf8EncodeChar character ++ unescape rest := by
  unfold Escape.escapeChar
  split
  · next nul =>
      subst nul
      split
      · exact unescape_hexPairs _ rest
      · exact unescape_escaped (by decide) rest
  split
  · next protects =>
      refine unescape_escaped ?_ rest
      rcases EscapeRules.mem_of_protects protects with special | ⟨_, rfl⟩ | ⟨_, rfl⟩
      · exact noDigits character special
      · decide
      · decide
  next bare =>
  split
  · exact unescape_hexPairs character rest
  · refine unescape_bare ?_ rest
    rintro rfl
    exact bare (by simp [EscapeRules.protects, backslash])

/-- Unescaping undoes what escaping did. -/
theorem unescape_escapeFrom (backslash : '\\' ∈ rules.specials)
    (noDigits : ∀ special ∈ rules.specials, digitValue? 16 special = none)
    (hexed first : Bool) (value : List Char) :
    unescape (Escape.escapeFrom rules hexed first value) = Utf8.encode value := by
  induction value generalizing first with
  | nil => rfl
  | cons character rest ih =>
      rw [Escape.escapeFrom, unescape_escapeChar backslash noDigits, ih, Utf8.encode_cons]

end Text

theorem Escape.mem_of_mem_escapeFrom {rules : EscapeRules} {hexed first : Bool}
    {value : List Char} {character : Char}
    (member : character ∈ escapeFrom rules hexed first value) :
    character ∈ value ∨ character = '\\' ∨ character ∈ Octet.hexDigits := by
  have pairs {other : Char} (inside : character ∈ hexPairs other) :
      character = '\\' ∨ character ∈ Octet.hexDigits := by
    obtain ⟨octet, _, digit⟩ := List.mem_flatMap.mp inside
    exact (List.mem_cons.mp digit).imp_right Octet.hexDigits_of_mem_hexPair
  induction value generalizing first with
  | nil => cases member
  | cons next rest ih =>
      rw [escapeFrom, List.mem_append] at member
      rcases member with here | later
      · unfold escapeChar at here
        grind
      · exact (ih later).imp_left (List.mem_cons_of_mem next)

/-- A dot is written for a dot only. -/
theorem Ava.dot_not_mem_writeValue {rules : EscapeRules} {ava : Ava} (label : ¬ava.IsNoLabel) :
    '.' ∉ ava.writeValue rules := by
  unfold writeValue
  split
  · intro dot
    rcases List.mem_cons.mp dot with hash | inside
    · cases hash
    · obtain ⟨octet, _, digit⟩ := List.mem_flatMap.mp inside
      exact absurd (Octet.hexDigits_of_mem_hexPair digit) (by decide)
  · next text =>
      intro dot
      rcases Escape.mem_of_mem_escapeFrom dot with inside | backslash | digit
      · exact label ⟨by simpa using text, .inr inside⟩
      · cases backslash
      · exact absurd digit (by decide)

/-- Where each step succeeds with the image of its item, so does the whole list. -/
theorem eq_map_of_mapM {ε α β : Type} {action : α → Except ε β} {image : α → β}
    (each : ∀ item value, action item = .ok value → value = image item)
    {items : List α} {values : List β} (done : items.mapM action = .ok values) :
    values = items.map image := by
  induction items generalizing values with
  | nil =>
      cases done
      rfl
  | cons item items ih =>
      rw [List.mapM_cons, Reading.bind_eq_ok_iff] at done
      obtain ⟨value, first, done⟩ := done
      rw [Reading.bind_eq_ok_iff] at done
      obtain ⟨others, rest, done⟩ := done
      cases done
      rw [each item value first, ih rest, List.map_cons]

namespace Dn

/-- A domain that could be written is the values of its labels with dots between them. -/
theorem writeDomain_eq_ok {rules : EscapeRules} {labels : List Rdn} {text : List Char}
    (written : writeDomain rules labels = .ok text) :
    (∀ rdn ∈ labels, ¬rdn.first.IsNoLabel) ∧
      text = ['.'].intercalate (labels.map fun rdn => rdn.first.writeValue rules) := by
  constructor
  · intro rdn member noLabel
    obtain ⟨fault, failed⟩ := (writeDomain_eq_error_iff rules labels).mpr ⟨rdn, member, noLabel⟩
    rw [written] at failed
    cases failed
  · unfold writeDomain at written
    cases done : labels.mapM (Rdn.writeLabel rules) with
    | error fault =>
        rw [done] at written
        cases written
    | ok values =>
        rw [done] at written
        cases written
        have each : ∀ rdn value, Rdn.writeLabel rules rdn = .ok value →
            value = rdn.first.writeValue rules := by
          intro rdn value label
          unfold Rdn.writeLabel at label
          split at label
          · cases label
          · cases label
            rfl
        rw [eq_map_of_mapM each done]

theorem writeDomain_sealed {rules : EscapeRules} {labels : List Rdn} {text : List Char}
    (seals : rules.Seal) (dot : '.' ∉ rules.specials)
    (written : writeDomain rules labels = .ok text) : Text.Sealed rules.specials text := by
  rw [(writeDomain_eq_ok written).2]
  refine .intercalate (.bare dot (by decide) .nil) fun piece member => ?_
  obtain ⟨rdn, _, rfl⟩ := List.mem_map.mp member
  exact rdn.first.writeValue_sealed seals

/-- Cut at its dots a domain gives its labels. -/
theorem splitOn_writeDomain {rules : EscapeRules} {labels : List Rdn} {text : List Char}
    (nonempty : labels ≠ []) (written : writeDomain rules labels = .ok text) :
    text.splitOn '.' = labels.map fun rdn => rdn.first.writeValue rules := by
  obtain ⟨areLabels, same⟩ := writeDomain_eq_ok written
  rw [same, List.splitOn_intercalate]
  · intro piece member
    obtain ⟨rdn, inside, rfl⟩ := List.mem_map.mp member
    exact Ava.dot_not_mem_writeValue (areLabels rdn inside)
  · simpa using nonempty

theorem write_of_build {flags : NameFlags} {form : Notation} {name : Dn} {text : String}
    (format : flags.format? = some form) (nonempty : name ≠ root)
    (built : name.build flags = .ok text) :
    name.Writable ∧ name.write form = .ok text.toList := by
  have components : name.rdns.isEmpty = false := by
    rw [← Bool.not_eq_true, List.isEmpty_iff]
    exact fun empty => nonempty (congrArg mk empty)
  rw [← fault?_eq_none_iff]
  simp only [build, format, components] at built
  split at built
  · cases built
  next none =>
  refine ⟨none, ?_⟩
  cases written : name.write form with
  | error fault =>
      rw [written] at built
      cases built
  | ok characters =>
      rw [written] at built
      cases built
      rw [String.toList_ofList]

theorem leaf_append_domain (name : Dn) : name.leaf ++ name.domain = name.rdns := by
  rw [leaf, domain, ← List.reverse_append, List.takeWhile_append_dropWhile, List.reverse_reverse]

theorem eq_leaf_of_isDomain {name : Dn} {leaf domain : List Rdn}
    (components : name.rdns = leaf ++ domain) (isDomain : name.IsDomain domain) :
    leaf = name.leaf ∧ domain = name.domain := by
  rw [isDomain_iff] at isDomain
  subst isDomain
  rw [← leaf_append_domain] at components
  exact ⟨(List.append_cancel_right components).symm, rfl⟩

end Dn

/-- In strict LDAP the text is read as the value of the assertion, whatever type it is given to. -/
def Ava.IsReadFrom (ava : Ava) (text : List Char) : Prop :=
  ∀ type : String, isAttributeType type = true →
    ∀ flags : NameFlags, flags.format? = some .ldapV3 →
      Dn.parseText (type ++ "=" ++ String.ofList text) flags =
        .ok ⟨[⟨⟨type, ava.value, ava.flags.readBack ava.value⟩, []⟩]⟩

theorem Ava.isReadFrom_writeValue {ava : Ava} (writable : ava.Writable) :
    ava.IsReadFrom (ava.writeValue .ldap) := by
  intro type typed flags format
  have renamed : (⟨type, ava.value, ava.flags⟩ : Ava).Writable := ⟨typed, writable.valued⟩
  have written : writeValue .ldap ⟨type, ava.value, ava.flags⟩ = ava.writeValue .ldap := rfl
  have read := Dn.parse_written format (.inr (.inl rfl)) renamed
  rw [written] at read
  exact read

/-- The values of a component, with spaces around the plus signs. -/
theorem Rdn.write_cut {rdn : Rdn} :
    Text.cut '+' (rdn.write [' ', '+', ' '] (Ava.writeValue .ldap)) =
      Text.withMargins [' '] [' '] (rdn.avas.map (Ava.writeValue .ldap)) := by
  have space : Text.Sealed EscapeRules.ldap.specials [' '] := .bare (by decide) (by decide) .nil
  refine @Text.cut_intercalate EscapeRules.ldap.specials [' '] [' '] '+' _ (by decide)
    (by decide) space space ?_ ?_
  · intro piece member
    obtain ⟨ava, _, rfl⟩ := List.mem_map.mp member
    exact ava.writeValue_sealed EscapeRules.ldap_seal
  · exact List.cons_ne_nil _ _

theorem Rdn.write_sealed (rdn : Rdn) :
    Text.Sealed [','] (rdn.write [' ', '+', ' '] (Ava.writeValue .ldap)) := by
  refine .intercalate (.of_free (by simp)) fun piece member => ?_
  obtain ⟨ava, _, rfl⟩ := List.mem_map.mp member
  exact (ava.writeValue_sealed EscapeRules.ldap_seal).mono (by decide)

namespace Dn

theorem writeUfn_eq_ok {name : Dn} {text : List Char} (written : name.writeUfn = .ok text) :
    ∃ last,
      text = [',', ' '].intercalate
        (name.leaf.map (Rdn.write [' ', '+', ' '] (Ava.writeValue .ldap)) ++ last) ∧
      (name.domain = [] → last = []) ∧
      (name.domain ≠ [] → ∃ piece, last = [piece] ∧ writeDomain .ldap name.domain = .ok piece) := by
  simp only [writeUfn] at written
  split at written
  · next none =>
      rw [List.isEmpty_iff] at none
      cases written
      exact ⟨[], by rw [List.append_nil], fun _ => rfl, fun some => absurd none some⟩
  · next some =>
      rw [List.isEmpty_iff] at some
      cases domain : writeDomain .ldap name.domain with
      | error fault =>
          rw [domain] at written
          cases written
      | ok piece =>
          rw [domain] at written
          cases written
          exact ⟨[piece], rfl, fun none => absurd none some, fun _ => ⟨piece, rfl, rfl⟩⟩

/-- Cut at its commas the text gives the components before the domain, and then the domain. -/
theorem cut_writeUfn {name : Dn} {text : List Char} (nonempty : name ≠ root)
    (written : name.writeUfn = .ok text) :
    ∃ last,
      Text.cut ',' text = Text.withMargins [] [' ']
        (name.leaf.map (Rdn.write [' ', '+', ' '] (Ava.writeValue .ldap)) ++ last) ∧
      (name.domain = [] → last = []) ∧
      (name.domain ≠ [] → ∃ piece, last = [piece] ∧ writeDomain .ldap name.domain = .ok piece) := by
  obtain ⟨last, rfl, none, some⟩ := writeUfn_eq_ok written
  refine ⟨last, ?_, none, some⟩
  refine @Text.cut_intercalate [','] [] [' '] ',' _ List.mem_cons_self (by decide) .nil
    (.of_free (by simp)) ?_ ?_
  · intro piece member
    rcases List.mem_append.mp member with inLeaf | inLast
    · obtain ⟨rdn, _, rfl⟩ := List.mem_map.mp inLeaf
      exact rdn.write_sealed
    · by_cases labels : name.domain = []
      · rw [none labels] at inLast
        cases inLast
      · obtain ⟨labelled, rfl, done⟩ := some labels
        obtain rfl := List.mem_singleton.mp inLast
        exact (writeDomain_sealed EscapeRules.ldap_seal (by decide) done).mono (by decide)
  · intro empty
    obtain ⟨noLeaf, noLast⟩ := List.append_eq_nil_iff.mp empty
    have noDomain : name.domain = [] := by
      by_contra labels
      obtain ⟨_, other, _⟩ := some labels
      rw [noLast] at other
      cases other
    rw [List.map_eq_nil_iff] at noLeaf
    have rdns := leaf_append_domain name
    rw [noLeaf, noDomain] at rdns
    exact nonempty (congrArg mk rdns.symm)

/-- A user-friendly name keeps every value. Cut at its commas it gives a piece for each
component before the domain and one for the domain; those cut at their plus signs, and this at
its dots, give a text for each assertion, and from that text its value is read. -/
theorem build_ufn_keeps_values {flags : NameFlags} {name : Dn} {text : String}
    {leaf domain : List Rdn} (format : flags.format? = some .ufn) (nonempty : name ≠ root)
    (built : name.build flags = .ok text) (components : name.rdns = leaf ++ domain)
    (isDomain : name.IsDomain domain) :
    ∃ pieces last,
      Text.cut ',' text.toList = Text.withMargins [] [' '] (pieces ++ last) ∧
      List.Forall₂
        (fun rdn piece => ∃ values, Text.cut '+' piece = Text.withMargins [' '] [' '] values ∧
          List.Forall₂ Ava.IsReadFrom rdn.avas values) leaf pieces ∧
      (domain = [] → last = []) ∧
      (domain ≠ [] → ∃ piece, last = [piece] ∧
        List.Forall₂ (fun rdn label => rdn.first.IsReadFrom label) domain
          (piece.splitOn '.')) := by
  obtain ⟨rfl, rfl⟩ := eq_leaf_of_isDomain components isDomain
  obtain ⟨writable, written⟩ := write_of_build format nonempty built
  obtain ⟨last, commas, none, some⟩ := cut_writeUfn nonempty written
  have reads {rdn : Rdn} {ava : Ava} (member : rdn ∈ name.leaf ++ name.domain)
      (inside : ava ∈ rdn.avas) : ava.IsReadFrom (ava.writeValue .ldap) := by
    rw [leaf_append_domain] at member
    exact Ava.isReadFrom_writeValue (writable rdn member ava inside)
  refine ⟨_, last, commas, ?_, none, ?_⟩
  · rw [List.forall₂_map_right_iff, List.forall₂_same]
    intro rdn member
    refine ⟨_, Rdn.write_cut, ?_⟩
    rw [List.forall₂_map_right_iff, List.forall₂_same]
    exact fun ava inside => reads (List.mem_append_left _ member) inside
  · intro labels
    obtain ⟨piece, found, done⟩ := some labels
    refine ⟨piece, found, ?_⟩
    rw [splitOn_writeDomain labels done, List.forall₂_map_right_iff, List.forall₂_same]
    exact fun rdn member => reads (List.mem_append_right _ member) List.mem_cons_self

theorem build_ufn_keeps_values_at_edges :
    NameFlags.format? ⟨0x40⟩ = some .ufn ∧
      build ⟨[⟨.string "cn" " a\\", [.string "sn" ""]⟩, ⟨⟨"o", "\u00E9+", .nonprintable⟩, []⟩,
        ⟨⟨"DC", "a.b", .binary⟩, []⟩, ⟨.string "dc" "c,d", []⟩]⟩ ⟨0x40⟩ =
          .ok "\\ a\\\\ + , \\c3\\a9\\+, #612e62.c\\,d" ∧
      ∃ pieces last,
        Text.cut ',' "\\ a\\\\ + , \\c3\\a9\\+, #612e62.c\\,d".toList =
          Text.withMargins [] [' '] (pieces ++ last) ∧
        List.Forall₂
          (fun (rdn : Rdn) piece => ∃ values,
            Text.cut '+' piece = Text.withMargins [' '] [' '] values ∧
              List.Forall₂ Ava.IsReadFrom rdn.avas values)
          [⟨.string "cn" " a\\", [.string "sn" ""]⟩, ⟨⟨"o", "\u00E9+", .nonprintable⟩, []⟩]
          pieces ∧
        ∃ piece, last = [piece] ∧
          List.Forall₂ (fun (rdn : Rdn) label => rdn.first.IsReadFrom label)
            [⟨⟨"DC", "a.b", .binary⟩, []⟩, ⟨.string "dc" "c,d", []⟩] (piece.splitOn '.') := by
  have format : NameFlags.format? ⟨0x40⟩ = some .ufn := by decide
  have built : build ⟨[⟨.string "cn" " a\\", [.string "sn" ""]⟩,
      ⟨⟨"o", "\u00E9+", .nonprintable⟩, []⟩, ⟨⟨"DC", "a.b", .binary⟩, []⟩,
      ⟨.string "dc" "c,d", []⟩]⟩ ⟨0x40⟩ = .ok "\\ a\\\\ + , \\c3\\a9\\+, #612e62.c\\,d" := by
    decide +kernel
  obtain ⟨pieces, last, commas, values, _, labels⟩ := @build_ufn_keeps_values ⟨0x40⟩
    ⟨[⟨.string "cn" " a\\", [.string "sn" ""]⟩, ⟨⟨"o", "\u00E9+", .nonprintable⟩, []⟩,
      ⟨⟨"DC", "a.b", .binary⟩, []⟩, ⟨.string "dc" "c,d", []⟩]⟩ _
    [⟨.string "cn" " a\\", [.string "sn" ""]⟩, ⟨⟨"o", "\u00E9+", .nonprintable⟩, []⟩]
    [⟨⟨"DC", "a.b", .binary⟩, []⟩, ⟨.string "dc" "c,d", []⟩] format (by decide) built rfl
    (by rw [isDomain_iff]; decide)
  exact ⟨format, built, pieces, last, commas, values, labels (by decide)⟩

end Dn

theorem EscapeRules.canonical_noDigits :
    ∀ special ∈ canonical.specials, Text.digitValue? 16 special = none := by
  rw [canonical, List.forall_mem_cons, List.forall_mem_singleton]
  decide

theorem Ava.unescape_writeValue {ava : Ava} (text : ava.flags.isBinary = false) :
    Text.unescape (ava.writeValue .canonical) = octetsOf ava.value := by
  rw [writeValue, if_neg (by simp [text]), Escape.escape,
    Text.unescape_escapeFrom (by decide) EscapeRules.canonical_noDigits]
  rfl

namespace Dn

/-- A name of single assertions above which there is a domain, and no value of it is binary. -/
structure IsPath (name : Dn) (leaf domain : List Rdn) : Prop where
  components : name.rdns = leaf ++ domain
  isDomain : name.IsDomain domain
  nonempty : leaf ≠ []
  single : ∀ rdn ∈ leaf, rdn.others = []
  text : ∀ rdn ∈ name.rdns, ∀ ava ∈ rdn.avas, ava.flags.isBinary = false

theorem writeAdCanonical_eq_ok {name : Dn} {text : List Char}
    (written : name.writeAdCanonical = .ok text) :
    name.domain ≠ [] ∧ ∃ labels, writeDomain .canonical name.domain = .ok labels ∧
      text = labels ++ '/' :: ['/'].intercalate
        (name.leaf.reverse.map (Rdn.write ['+'] (Ava.writeValue .canonical))) := by
  simp only [writeAdCanonical] at written
  split at written
  · cases written
  next some =>
  rw [List.isEmpty_iff] at some
  refine ⟨some, ?_⟩
  cases domain : writeDomain .canonical name.domain with
  | error fault =>
      rw [domain] at written
      cases written
  | ok labels =>
      rw [domain] at written
      cases written
      exact ⟨labels, rfl, rfl⟩

/-- Cut at its slashes a canonical name gives its domain and, the other way round, the values
of its components. -/
theorem cut_writeAdCanonical {name : Dn} {leaf domain : List Rdn} {text : List Char}
    (path : name.IsPath leaf domain) (written : name.writeAdCanonical = .ok text) :
    ∃ labels, Text.cut '/' text =
        labels :: leaf.reverse.map (fun rdn => rdn.first.writeValue .canonical) ∧
      labels.splitOn '.' = domain.map fun rdn => rdn.first.writeValue .canonical := by
  obtain ⟨rfl, rfl⟩ := eq_leaf_of_isDomain path.components path.isDomain
  obtain ⟨some, labels, done, rfl⟩ := writeAdCanonical_eq_ok written
  have single : name.leaf.reverse.map (Rdn.write ['+'] (Ava.writeValue .canonical)) =
      name.leaf.reverse.map fun rdn => rdn.first.writeValue .canonical := by
    refine List.map_congr_left fun rdn member => ?_
    rw [Rdn.write, Rdn.avas, path.single rdn (List.mem_reverse.mp member), List.map_singleton,
      List.intercalate_singleton]
  have slash : '/' ∈ EscapeRules.canonical.specials := by decide
  have isSealed := writeDomain_sealed EscapeRules.canonical_seal (by decide) done
  refine ⟨labels, ?_, splitOn_writeDomain some done⟩
  rw [single, isSealed.cut_separator slash (by decide),
    Text.cut_intercalate_singleton slash (by decide)]
  · intro piece member
    obtain ⟨rdn, _, rfl⟩ := List.mem_map.mp member
    exact rdn.first.writeValue_sealed EscapeRules.canonical_seal
  · simpa using path.nonempty

/-- Unescaped, the pieces are what the values were. -/
theorem unescape_cut_canonical {flags : NameFlags} {name : Dn} {leaf domain : List Rdn}
    {text : String} (format : flags.format? = some .adCanonical)
    (path : name.IsPath leaf domain) (built : name.build flags = .ok text) :
    ∃ labels values, Text.cut '/' text.toList = labels :: values ∧
      (labels.splitOn '.').map Text.unescape = domain.map (octetsOf ·.first.value) ∧
      values.map Text.unescape = leaf.reverse.map (octetsOf ·.first.value) := by
  have nonempty : name ≠ root := by
    rintro rfl
    exact path.nonempty (List.append_eq_nil_iff.mp path.components.symm).1
  obtain ⟨_, written⟩ := write_of_build format nonempty built
  obtain ⟨labels, pieces, domainPieces⟩ := cut_writeAdCanonical path written
  have unescapes {rdn : Rdn} (member : rdn ∈ leaf ++ domain) :
      Text.unescape (rdn.first.writeValue .canonical) = octetsOf rdn.first.value := by
    rw [← path.components] at member
    exact Ava.unescape_writeValue (path.text rdn member _ List.mem_cons_self)
  refine ⟨labels, _, pieces, ?_, ?_⟩
  · rw [domainPieces, List.map_map]
    exact List.map_congr_left fun rdn member => unescapes (List.mem_append_right _ member)
  · rw [List.map_map]
    exact List.map_congr_left fun rdn member =>
      unescapes (List.mem_append_left _ (List.mem_reverse.mp member))

theorem values_eq_of_octets {first second : List Rdn}
    (same : first.map (octetsOf ·.first.value) = second.map (octetsOf ·.first.value)) :
    first.map (·.first.value) = second.map (·.first.value) := by
  refine List.map_injective_iff.mpr (fun _ _ => octetsOf_injective) ?_
  rw [List.map_map, List.map_map]
  exact same

/-- A canonical name keeps every value. Cut at its slashes it gives the domain, which cut at
its dots gives the labels, and then the values from the most general to the most specific;
unescaped they are what they were. So names written alike have the same values. -/
theorem build_canonical_keeps_values {flags : NameFlags} {name : Dn} {leaf domain : List Rdn}
    {text : String} (format : flags.format? = some .adCanonical)
    (path : name.IsPath leaf domain) (built : name.build flags = .ok text) :
    (∃ labels values, Text.cut '/' text.toList = labels :: values ∧
      (labels.splitOn '.').map Text.unescape = domain.map (octetsOf ·.first.value) ∧
      values.map Text.unescape = leaf.reverse.map (octetsOf ·.first.value)) ∧
    ∀ (otherFlags : NameFlags) (other : Dn) (otherLeaf otherDomain : List Rdn),
      otherFlags.format? = some .adCanonical → other.IsPath otherLeaf otherDomain →
        other.build otherFlags = .ok text →
          otherDomain.map (·.first.value) = domain.map (·.first.value) ∧
            otherLeaf.map (·.first.value) = leaf.map (·.first.value) := by
  have keeps := unescape_cut_canonical format path built
  refine ⟨keeps, ?_⟩
  intro otherFlags other otherLeaf otherDomain otherFormat otherPath otherBuilt
  obtain ⟨labels, values, pieces, domainOctets, leafOctets⟩ := keeps
  obtain ⟨_, _, otherPieces, otherDomainOctets, otherLeafOctets⟩ :=
    unescape_cut_canonical otherFormat otherPath otherBuilt
  obtain ⟨rfl, rfl⟩ := List.cons.inj (otherPieces.symm.trans pieces)
  refine ⟨values_eq_of_octets (otherDomainOctets.symm.trans domainOctets), ?_⟩
  have backwards := values_eq_of_octets (otherLeafOctets.symm.trans leafOctets)
  rwa [List.map_reverse, List.map_reverse, List.reverse_inj] at backwards

/-- Slashes, backslashes and NUL are protected, hexadecimal pairs or not. -/
theorem build_canonical_keeps_slashes :
    NameFlags.format? ⟨0x50⟩ = some .adCanonical ∧
      IsPath ⟨[⟨.string "cn" "#a/\\ \x00", []⟩, ⟨⟨"o", "\u00E9/2f", .nonprintable⟩, []⟩,
          ⟨.string "dC" "x/y", []⟩, ⟨.string "dc" "z", []⟩]⟩
        [⟨.string "cn" "#a/\\ \x00", []⟩, ⟨⟨"o", "\u00E9/2f", .nonprintable⟩, []⟩]
        [⟨.string "dC" "x/y", []⟩, ⟨.string "dc" "z", []⟩] ∧
      build ⟨[⟨.string "cn" "#a/\\ \x00", []⟩, ⟨⟨"o", "\u00E9/2f", .nonprintable⟩, []⟩,
          ⟨.string "dC" "x/y", []⟩, ⟨.string "dc" "z", []⟩]⟩ ⟨0x50⟩ =
        .ok "x\\/y.z/\\c3\\a9\\/2f/#a\\/\\\\ \\\x00" ∧
      ∃ labels values,
        Text.cut '/' "x\\/y.z/\\c3\\a9\\/2f/#a\\/\\\\ \\\x00".toList = labels :: values ∧
        (labels.splitOn '.').map Text.unescape = [octetsOf "x/y", octetsOf "z"] ∧
        values.map Text.unescape = [octetsOf "\u00E9/2f", octetsOf "#a/\\ \x00"] := by
  have path : IsPath ⟨[⟨.string "cn" "#a/\\ \x00", []⟩, ⟨⟨"o", "\u00E9/2f", .nonprintable⟩, []⟩,
        ⟨.string "dC" "x/y", []⟩, ⟨.string "dc" "z", []⟩]⟩
      [⟨.string "cn" "#a/\\ \x00", []⟩, ⟨⟨"o", "\u00E9/2f", .nonprintable⟩, []⟩]
      [⟨.string "dC" "x/y", []⟩, ⟨.string "dc" "z", []⟩] := by
    refine ⟨rfl, ?_, by decide, by decide, by decide⟩
    rw [isDomain_iff]
    decide
  have built : build ⟨[⟨.string "cn" "#a/\\ \x00", []⟩, ⟨⟨"o", "\u00E9/2f", .nonprintable⟩, []⟩,
        ⟨.string "dC" "x/y", []⟩, ⟨.string "dc" "z", []⟩]⟩ ⟨0x50⟩ =
      .ok "x\\/y.z/\\c3\\a9\\/2f/#a\\/\\\\ \\\x00" := by
    decide +kernel
  exact ⟨by decide, path, built,
    (@build_canonical_keeps_values ⟨0x50⟩ _ _ _ _ (by decide) path built).1⟩

end Dn

end DirectoryName

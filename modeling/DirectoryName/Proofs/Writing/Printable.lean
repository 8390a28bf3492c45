import DirectoryName.Proofs.Writing.Display

namespace DirectoryName

/-! Names in printable ASCII.

A value that asks for hexadecimal pairs or for a hexadecimal string is written with nothing
outside printable ASCII, and what the notations put around a value is inside. -/

namespace Text

/-- Printable ASCII alone. -/
def IsPrintable (text : List Char) : Prop :=
  ∀ character ∈ text, Escape.isPrintableAscii character = true

instance (text : List Char) : Decidable (IsPrintable text) :=
  List.decidableBAll (fun character => Escape.isPrintableAscii character = true) text

namespace IsPrintable

variable {first second : List Char}

theorem append (firstPrintable : IsPrintable first) (secondPrintable : IsPrintable second) :
    IsPrintable (first ++ second) :=
  List.forall_mem_append.mpr ⟨firstPrintable, secondPrintable⟩

theorem cons {character : Char} (printable : Escape.isPrintableAscii character = true)
    (others : IsPrintable first) : IsPrintable (character :: first) :=
  List.forall_mem_cons.mpr ⟨printable, others⟩

theorem flatMap {α : Type} {items : List α} {write : α → List Char}
    (each : ∀ item ∈ items, IsPrintable (write item)) : IsPrintable (items.flatMap write) := by
  intro character member
  obtain ⟨item, inside, written⟩ := List.mem_flatMap.mp member
  exact each item inside character written

theorem intercalate {joint : List Char} {pieces : List (List Char)}
    (jointPrintable : IsPrintable joint) (each : ∀ piece ∈ pieces, IsPrintable piece) :
    IsPrintable (joint.intercalate pieces) := by
  induction pieces with
  | nil => exact List.forall_mem_nil _
  | cons piece rest ih =>
      rw [List.forall_mem_cons] at each
      cases rest with
      | nil =>
          rw [List.intercalate_singleton]
          exact each.1
      | cons next rest =>
          rw [List.intercalate_cons_cons]
          exact (each.1.append jointPrintable).append (ih each.2)

theorem octets {text : String} (printable : IsPrintable text.toList) :
    ∀ octet ∈ octetsOf text, 0x20 ≤ octet ∧ octet ≤ 0x7E := by
  intro octet member
  obtain ⟨character, inside, encoded⟩ := List.mem_flatMap.mp member
  exact Octet.printable_of_mem (printable character inside) encoded

end IsPrintable

end Text

theorem isPrintable_of_typed {type : String} (typed : isAttributeType type = true) :
    Text.IsPrintable type.toList := by
  have keys : ∀ octet, Octet.isKeyOctet octet = true ∨ octet = Octet.dot →
      Escape.isPrintableAscii (Octet.toChar octet) = true :=
    Octet.forall_of_codes (by decide +kernel)
  have ascii : ∀ octet ∈ octetsOf type, octet.toNat < 0x80 := by
    intro octet member
    rcases key_or_dot_of_typed typed octet member with key | rfl
    · exact Octet.isKeyOctet_ascii key
    · decide
  rw [← Octet.textOf_octetsOf ascii, Octet.textOf, String.toList_ofList]
  exact List.forall_mem_map.mpr fun octet member =>
    keys octet (key_or_dot_of_typed typed octet member)

namespace Escape

theorem hexPair_printable (octet : UInt8) : Text.IsPrintable (Octet.hexPair octet) := by
  have digits : Text.IsPrintable Octet.hexDigits := by decide
  exact fun digit member => digits digit (Octet.hexDigits_of_mem_hexPair member)

theorem hexPairs_printable (character : Char) : Text.IsPrintable (hexPairs character) :=
  .flatMap fun octet _ => .cons (by decide) (hexPair_printable octet)

theorem hexString_printable (value : List Char) : Text.IsPrintable (hexString value) :=
  .cons (by decide) (.flatMap fun octet _ => hexPair_printable octet)

variable {rules : EscapeRules}

theorem printable_of_protects {first last : Bool} {character : Char}
    (specials : Text.IsPrintable rules.specials)
    (protects : rules.protects first last character = true) :
    isPrintableAscii character = true := by
  rcases EscapeRules.mem_of_protects protects with special | ⟨_, rfl⟩ | ⟨_, rfl⟩
  · exact specials character special
  · decide
  · decide

theorem escapeChar_printable (specials : Text.IsPrintable rules.specials) (first last : Bool)
    (character : Char) : Text.IsPrintable (escapeChar rules true first last character) := by
  unfold escapeChar
  split
  · rw [if_pos rfl]
    exact hexPairs_printable character
  split
  · next protects =>
      have printable := printable_of_protects specials protects
      exact .cons (by decide) (.cons printable (List.forall_mem_nil _))
  split
  · exact hexPairs_printable character
  · next visible =>
      have printable : isPrintableAscii character = true := by simpa using visible
      exact .cons printable (List.forall_mem_nil _)

theorem escapeFrom_printable (specials : Text.IsPrintable rules.specials) (first : Bool)
    (value : List Char) : Text.IsPrintable (escapeFrom rules true first value) := by
  induction value generalizing first with
  | nil => exact List.forall_mem_nil _
  | cons character rest ih =>
      exact (escapeChar_printable specials first rest.isEmpty character).append (ih false)

theorem quoteChar_printable (character : Char) : Text.IsPrintable (quoteChar true character) := by
  unfold quoteChar
  split
  · next special =>
      have printable : isPrintableAscii character = true := by
        simp only [Bool.or_eq_true, decide_eq_true_eq] at special
        rcases special with rfl | rfl <;> decide
      exact .cons (by decide) (.cons printable (List.forall_mem_nil _))
  split
  · exact hexPairs_printable character
  · next visible =>
      have printable : isPrintableAscii character = true := by simpa using visible
      exact .cons printable (List.forall_mem_nil _)

theorem quote_printable (value : List Char) : Text.IsPrintable (quote true value) := by
  have inner : Text.IsPrintable (value.flatMap (quoteChar true)) :=
    .flatMap fun character _ => quoteChar_printable character
  exact .cons (by decide) (inner.append (by decide))

end Escape

/-- The value is written as a hexadecimal string, or with pairs for what is not printable. -/
def Ava.IsHexed (ava : Ava) : Prop :=
  ava.flags.isNonprintable = true ∨ ava.flags.isBinary = true

instance (ava : Ava) : Decidable ava.IsHexed :=
  inferInstanceAs (Decidable (_ ∨ _))

namespace Ava

variable {ava : Ava}

theorem writeValue_printable {rules : EscapeRules} (specials : Text.IsPrintable rules.specials)
    (hexed : ava.IsHexed) : Text.IsPrintable (ava.writeValue rules) := by
  unfold writeValue
  split
  · exact Escape.hexString_printable _
  · next text =>
      rw [hexed.resolve_right text]
      exact Escape.escapeFrom_printable specials true _

theorem writeQuotable_printable (hexed : ava.IsHexed) : Text.IsPrintable ava.writeQuotable := by
  unfold writeQuotable
  split
  · next quoted =>
      have text : ¬ava.flags.isBinary = true := by
        simp only [Bool.and_eq_true, Bool.not_eq_true'] at quoted
        simp [quoted.1]
      rw [hexed.resolve_right text]
      exact Escape.quote_printable _
  · exact writeValue_printable (by decide) hexed

theorem write_printable {value : Ava → List Char} (typed : isAttributeType ava.type = true)
    (printable : Text.IsPrintable (value ava)) : Text.IsPrintable (ava.write value) :=
  (isPrintable_of_typed typed).append (.cons (by decide) printable)

end Ava

theorem Rdn.write_printable {joint : List Char} {write : Ava → List Char} {rdn : Rdn}
    (jointPrintable : Text.IsPrintable joint)
    (each : ∀ ava ∈ rdn.avas, Text.IsPrintable (write ava)) :
    Text.IsPrintable (rdn.write joint write) :=
  .intercalate jointPrintable (List.forall_mem_map.mpr each)

namespace Dn

/-- Every value is written as a hexadecimal string, or with pairs for what is not printable. -/
def IsHexed (name : Dn) : Prop :=
  ∀ rdn ∈ name.rdns, ∀ ava ∈ rdn.avas, ava.IsHexed

instance (name : Dn) : Decidable name.IsHexed :=
  inferInstanceAs (Decidable (∀ rdn ∈ name.rdns, ∀ ava ∈ rdn.avas, ava.IsHexed))

variable {name : Dn} {text : List Char}

theorem rdns_printable {joint : List Char} {value : Ava → List Char}
    (writable : name.Writable) (jointPrintable : Text.IsPrintable joint)
    (values : ∀ rdn ∈ name.rdns, ∀ ava ∈ rdn.avas, Text.IsPrintable (value ava)) :
    ∀ rdn ∈ name.rdns, Text.IsPrintable (rdn.write joint (Ava.write value)) := by
  intro rdn member
  refine Rdn.write_printable jointPrintable fun ava inside => ?_
  exact Ava.write_printable (writable rdn member ava inside).typed (values rdn member ava inside)

theorem writeDomain_printable {rules : EscapeRules} {labels : List Rdn}
    (specials : Text.IsPrintable rules.specials) (hexed : ∀ rdn ∈ labels, rdn.first.IsHexed)
    (written : writeDomain rules labels = .ok text) : Text.IsPrintable text := by
  rw [(writeDomain_eq_ok written).2]
  refine .intercalate (by decide) (List.forall_mem_map.mpr fun rdn member => ?_)
  exact Ava.writeValue_printable specials (hexed rdn member)

theorem IsHexed.domain (hexed : name.IsHexed) : ∀ rdn ∈ name.domain, rdn.first.IsHexed := by
  intro rdn member
  refine hexed rdn ?_ rdn.first List.mem_cons_self
  rw [← leaf_append_domain]
  exact List.mem_append_right _ member

theorem IsHexed.leaf {rules : EscapeRules} {joint : List Char} (hexed : name.IsHexed)
    (specials : Text.IsPrintable rules.specials) (jointPrintable : Text.IsPrintable joint) :
    ∀ rdn ∈ name.leaf, Text.IsPrintable (rdn.write joint (Ava.writeValue rules)) := by
  intro rdn member
  refine Rdn.write_printable jointPrintable fun ava inside => ?_
  refine Ava.writeValue_printable specials (hexed rdn ?_ ava inside)
  rw [← leaf_append_domain]
  exact List.mem_append_left _ member

theorem writeUfn_printable (hexed : name.IsHexed) (written : name.writeUfn = .ok text) :
    Text.IsPrintable text := by
  obtain ⟨last, rfl, none, some⟩ := writeUfn_eq_ok written
  refine .intercalate (by decide) (List.forall_mem_append.mpr ⟨?_, ?_⟩)
  · exact List.forall_mem_map.mpr (hexed.leaf (by decide) (by decide))
  · by_cases empty : name.domain = []
    · rw [none empty]
      exact List.forall_mem_nil _
    · obtain ⟨piece, rfl, domain⟩ := some empty
      exact List.forall_mem_singleton.mpr (writeDomain_printable (by decide) hexed.domain domain)

theorem writeAdCanonical_printable (hexed : name.IsHexed)
    (written : name.writeAdCanonical = .ok text) : Text.IsPrintable text := by
  obtain ⟨_, labels, domain, rfl⟩ := writeAdCanonical_eq_ok written
  refine (writeDomain_printable (by decide) hexed.domain domain).append (.cons (by decide) ?_)
  refine .intercalate (by decide) (List.forall_mem_map.mpr fun rdn member => ?_)
  exact hexed.leaf (by decide) (by decide) rdn (List.mem_reverse.mp member)

theorem write_printable {form : Notation} (writable : name.Writable) (hexed : name.IsHexed)
    (written : name.write form = .ok text) : Text.IsPrintable text := by
  have plain (rules : EscapeRules) (specials : Text.IsPrintable rules.specials) :
      ∀ rdn ∈ name.rdns, ∀ ava ∈ rdn.avas, Text.IsPrintable (ava.writeValue rules) :=
    fun rdn member ava inside => Ava.writeValue_printable specials (hexed rdn member ava inside)
  cases form with
  | ldap | ldapV3 =>
      cases written
      exact .intercalate (by decide) (List.forall_mem_map.mpr
        (rdns_printable writable (by decide) (plain .ldap (by decide))))
  | ldapV2 =>
      cases written
      exact .intercalate (by decide) (List.forall_mem_map.mpr
        (rdns_printable writable (by decide) fun rdn member ava inside =>
          Ava.writeQuotable_printable (hexed rdn member ava inside)))
  | dce =>
      cases written
      refine .flatMap fun rdn member => .cons (by decide) ?_
      exact rdns_printable writable (by decide) (plain .dce (by decide)) rdn
        (List.mem_reverse.mp member)
  | ufn => exact writeUfn_printable hexed written
  | adCanonical => exact writeAdCanonical_printable hexed written

/-- A name whose values are all marked for hexadecimal digits is written in printable ASCII, in
every notation: no separator, escape or domain lets another octet through. -/
theorem build_printable {name : Dn} {flags : NameFlags} {text : String} (hexed : name.IsHexed)
    (built : name.build flags = .ok text) :
    ∀ octet ∈ octetsOf text, 0x20 ≤ octet ∧ octet ≤ 0x7E := by
  cases format : flags.format? with
  | none =>
      rw [build, format] at built
      cases built
  | some form =>
      by_cases empty : name = root
      · rw [empty, build_root format] at built
        cases built
        exact List.forall_mem_nil _
      · obtain ⟨writable, written⟩ := write_of_build format empty built
        exact (write_printable writable hexed written).octets

/-- Quotes around a tab, DEL and a character of three octets; a hexadecimal string in a
domain. -/
theorem build_printable_in_quotes :
    IsHexed ⟨[⟨⟨"cn", " \"\t\x7f\u20AC", .nonprintable⟩, []⟩, ⟨⟨"dc", "\x00", ⟨0x16⟩⟩, []⟩]⟩ ∧
      build ⟨[⟨⟨"cn", " \"\t\x7f\u20AC", .nonprintable⟩, []⟩, ⟨⟨"dc", "\x00", ⟨0x16⟩⟩, []⟩]⟩
        ⟨0x20⟩ = .ok "cn=\" \\\"\\09\\7f\\e2\\82\\ac\",dc=#00" ∧
      build ⟨[⟨⟨"cn", " \"\t\x7f\u20AC", .nonprintable⟩, []⟩, ⟨⟨"dc", "\x00", ⟨0x16⟩⟩, []⟩]⟩
        ⟨0x40⟩ = .ok "\\ \\\"\\09\\7f\\e2\\82\\ac, #00" ∧
      ∀ octet ∈ octetsOf "\\ \\\"\\09\\7f\\e2\\82\\ac, #00", 0x20 ≤ octet ∧ octet ≤ 0x7E := by
  have hexed : IsHexed ⟨[⟨⟨"cn", " \"\t\x7f\u20AC", .nonprintable⟩, []⟩,
      ⟨⟨"dc", "\x00", ⟨0x16⟩⟩, []⟩]⟩ := by
    decide
  have built : build ⟨[⟨⟨"cn", " \"\t\x7f\u20AC", .nonprintable⟩, []⟩,
      ⟨⟨"dc", "\x00", ⟨0x16⟩⟩, []⟩]⟩ ⟨0x40⟩ = .ok "\\ \\\"\\09\\7f\\e2\\82\\ac, #00" := by
    decide +kernel
  exact ⟨hexed, by decide +kernel, built, build_printable hexed built⟩

end Dn

end DirectoryName

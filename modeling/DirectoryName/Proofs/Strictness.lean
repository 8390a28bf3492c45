import DirectoryName.Proofs.Reading.Name
import DirectoryName.Proofs.Reading.Path

namespace DirectoryName

/-! Stricter rules refuse more and read nothing differently.

Rules are laxer than others when they forbid nothing that the others allow. What spells a
thing under some rules spells the same thing under all laxer ones, so the readers, which
read exactly the spellings, keep their answers. -/

/-- Whatever the first forbids, the second forbids too. -/
structure Strictness.Laxer (lax strict : Strictness) : Prop where
  edgeSpaces : lax.noEdgeSpaces = true → strict.noEdgeSpaces = true
  separators : lax.noSpaceAfterSeparator = true → strict.noSpaceAfterSeparator = true
  escapes : lax.needfulEscapesOnly = true → strict.needfulEscapesOnly = true

/-- The lenient dialect has all that the strict one has; path notation stands apart. -/
inductive Dialect.Laxer : Dialect → Dialect → Prop where
  | same (dialect : Dialect) : Laxer dialect dialect
  | lenient : Laxer .lenient .strictV3

structure Rules.Laxer (lax strict : Rules) : Prop where
  dialect : lax.dialect.Laxer strict.dialect
  strictness : lax.strictness.Laxer strict.strictness

theorem Strictness.Laxer.refl (strictness : Strictness) : strictness.Laxer strictness :=
  ⟨id, id, id⟩

namespace Dialect.Laxer

variable {lax strict : Dialect}

theorem dce_iff (laxer : lax.Laxer strict) : lax = .dce ↔ strict = .dce := by
  cases laxer with
  | same => exact Iff.rfl
  | lenient => decide

theorem eq_lenient (laxer : lax.Laxer strict) (lenient : strict = .lenient) : lax = .lenient := by
  cases laxer with
  | same => exact lenient
  | lenient => rfl

/-- The dialects differ in what they read, not in what they reserve and protect. -/
theorem delimiters (laxer : lax.Laxer strict) :
    lax.reserved = strict.reserved ∧ lax.protectable = strict.protectable ∧
      lax.joint = strict.joint := by
  cases laxer with
  | same => exact ⟨rfl, rfl, rfl⟩
  | lenient => exact ⟨rfl, rfl, rfl⟩

end Dialect.Laxer

section

variable {lax strict : Rules}

theorem Padding.mono {text : List UInt8} (laxer : lax.Laxer strict)
    (padded : Padding strict text) : Padding lax text := by
  refine ⟨padded.1, fun forbidden => padded.2 ?_⟩
  rcases forbidden with dce | noSpaces
  · exact .inl (laxer.dialect.dce_iff.mp dce)
  · exact .inr (laxer.strictness.edgeSpaces noSpaces)

theorem EscapeSpelling.mono {piece : Piece} {text : List UInt8} (laxer : lax.Laxer strict)
    (spelled : EscapeSpelling strict piece text) : EscapeSpelling lax piece text := by
  cases spelled with
  | escaped octet noDigit needful =>
      refine .escaped octet noDigit fun only => ?_
      rw [laxer.dialect.delimiters.2.1]
      exact needful (laxer.strictness.escapes only)
  | pair highDigit lowDigit => exact .pair highDigit lowDigit

theorem PiecesSpelling.mono {reserved : List UInt8} {pieces : List Piece} {text : List UInt8}
    (laxer : lax.Laxer strict) (spelled : PiecesSpelling strict reserved pieces text) :
    PiecesSpelling lax reserved pieces text := by
  induction spelled with
  | nil => exact .nil
  | plain free _ ih => exact .plain free ih
  | escape first _ ih => exact .escape (first.mono laxer) ih

theorem TypeSpelling.mono {lax strict : Dialect} {type : String} {text : List UInt8}
    (laxer : lax.Laxer strict) (spelled : TypeSpelling strict type text) :
    TypeSpelling lax type text := by
  cases spelled with
  | descriptor descriptor => exact .descriptor descriptor
  | number number => exact .number number
  | oid lenient oid number => exact .oid (laxer.eq_lenient lenient) oid number

theorem ValueSpelling.mono {value : Value} {text : List UInt8} (laxer : lax.Laxer strict)
    (spelled : ValueSpelling strict value text) : ValueSpelling lax value text := by
  cases spelled with
  | hexString nonempty digits => exact .hexString nonempty digits
  | quoted lenient inner decodes marked =>
      exact .quoted (laxer.dialect.eq_lenient lenient) (inner.mono laxer) decodes marked
  | plain pieces noHash noEdgeSpaces decodes marked =>
      have spelled := pieces.mono laxer
      rw [← laxer.dialect.delimiters.1] at spelled
      refine .plain spelled noHash (fun ldap => noEdgeSpaces ?_) decodes marked
      exact mt laxer.dialect.dce_iff.mpr ldap

theorem AvaSpelling.mono {ava : Ava} {text : List UInt8} (laxer : lax.Laxer strict)
    (spelled : AvaSpelling strict ava text) : AvaSpelling lax ava text := by
  cases spelled with
  | intro typePadded typed equalsPadded valuePadded valued endPadded =>
      exact .intro (typePadded.mono laxer) (typed.mono laxer.dialect) (equalsPadded.mono laxer)
        (valuePadded.mono laxer) (valued.mono laxer) (endPadded.mono laxer)

theorem RdnSpelling.mono {rdn : Rdn} {text : List UInt8} (laxer : lax.Laxer strict)
    (spelled : RdnSpelling strict rdn text) : RdnSpelling lax rdn text := by
  induction spelled with
  | single spelled => exact .single (spelled.mono laxer)
  | more spelled _ ih =>
      rw [← laxer.dialect.delimiters.2.2]
      exact .more (spelled.mono laxer) ih

theorem RdnsSpelling.mono {rdns : List Rdn} {text : List UInt8} (laxer : lax.Laxer strict)
    (spelled : RdnsSpelling strict rdns text) : RdnsSpelling lax rdns text := by
  induction spelled with
  | single spelled => exact .single (spelled.mono laxer)
  | more spelled separates noSpace _ ih =>
      refine .more (spelled.mono laxer) ?_ (fun forbidden => ?_) ih
      · exact separates.imp_right fun semicolon =>
          ⟨semicolon.1, laxer.dialect.eq_lenient semicolon.2⟩
      · exact noSpace (laxer.strictness.separators forbidden)

theorem LdapSpelling.mono {name : Dn} {text : List UInt8} (laxer : lax.Laxer strict)
    (spelled : LdapSpelling strict name text) : LdapSpelling lax name text := by
  cases spelled with
  | root spaces empty =>
      exact .root spaces fun forbidden => empty (laxer.strictness.edgeSpaces forbidden)
  | rdns spelled => exact .rdns (spelled.mono laxer)

theorem PathSpelling.mono {rdns : List Rdn} {text : List UInt8} (laxer : lax.Laxer strict)
    (spelled : PathSpelling strict rdns text) : PathSpelling lax rdns text := by
  induction spelled with
  | nil => exact .nil
  | cons spelled _ ih => exact .cons (spelled.mono laxer) ih

theorem NameSpelling.mono {name : Dn} {text : List UInt8} (laxer : lax.Laxer strict)
    (spelled : NameSpelling strict name text) : NameSpelling lax name text := by
  obtain ⟨laxDialect, laxStrictness⟩ := lax
  obtain ⟨dialect, strictness⟩ := strict
  have dialects : laxDialect.Laxer dialect := laxer.dialect
  cases dialects with
  | lenient => exact LdapSpelling.mono laxer spelled
  | same =>
      cases laxDialect with
      | lenient | strictV3 => exact LdapSpelling.mono laxer spelled
      | dce => exact PathSpelling.mono laxer spelled

end

namespace NameFlags

/-- A word put together from the bits of two others, seen through a mask. -/
theorem masked_and (kept given mask bits : UInt32) :
    (kept &&& ~~~mask ||| given &&& mask) &&& bits =
      kept &&& (~~~mask &&& bits) ||| given &&& (mask &&& bits) := by
  rw [← UInt32.and_assoc, ← UInt32.and_assoc, ← UInt32.toBitVec_inj]
  exact BitVec.and_or_distrib_right

theorem formatBits_withFormat (flags : NameFlags) (format : UInt32) :
    (flags.withFormat format).formatBits = format &&& formatMask := by
  have kept : ~~~formatMask &&& formatMask = 0 := by decide
  have given : formatMask &&& formatMask = formatMask := by decide
  rw [formatBits, withFormat, masked_and, kept, given, UInt32.and_zero, UInt32.zero_or]

/-- The bits outside the format nibble stay. -/
theorem withFormat_and {bits : UInt32} (kept : ~~~formatMask &&& bits = bits)
    (flags : NameFlags) (format : UInt32) :
    (flags.withFormat format).bits &&& bits = flags.bits &&& bits := by
  have none : formatMask &&& ~~~formatMask = 0 := by decide
  have outside : formatMask &&& bits = 0 := by
    rw [← kept, ← UInt32.and_assoc, none, UInt32.zero_and]
  rw [withFormat, masked_and, kept, outside, UInt32.and_zero, UInt32.or_zero]

theorem format?_withFormat (flags : NameFlags) (form : Notation) :
    (flags.withFormat (ofFormat form).bits).format? = some form := by
  rw [format?, formatBits_withFormat]
  cases form <;> decide

theorem strictness_withFormat (flags : NameFlags) (format : UInt32) :
    (flags.withFormat format).strictness = flags.strictness := by
  have edges := @withFormat_and 0x1000 (by decide) flags format
  have separators := @withFormat_and 0x2000 (by decide) flags format
  have escapes := @withFormat_and pedanticMask (by decide) flags format
  simp only [strictness, noEdgeSpaces, noSpaceAfterSeparator, isPedantic, edges, separators,
    escapes]

theorem format?_congr {first second : NameFlags} (nibble : first.formatBits = second.formatBits) :
    first.format? = second.format? := by
  rw [format?, format?, nibble]

/-- The format nibble and the strictness select the rules. -/
theorem rules_congr {first second : NameFlags} (nibble : first.formatBits = second.formatBits)
    (strictness : first.strictness = second.strictness) : first.rules = second.rules := by
  rw [rules, rules, format?_congr nibble, nibble, strictness]

end NameFlags

namespace Dn

theorem parse_congr {first second : NameFlags} (same : first.rules = second.rules)
    (input : List UInt8) : parse input first = parse input second := by
  rw [parse, parse, same]

/-- What stricter rules read, laxer rules read as the same name. -/
theorem parse_mono {lax strict : NameFlags} {laxForm strictForm : Notation}
    {laxDialect strictDialect : Dialect} {input : List UInt8} {name : Dn}
    (laxFormat : lax.format? = some laxForm) (laxReadable : laxForm.dialect? = some laxDialect)
    (strictFormat : strict.format? = some strictForm)
    (strictReadable : strictForm.dialect? = some strictDialect)
    (dialect : laxDialect.Laxer strictDialect)
    (strictness : lax.strictness.Laxer strict.strictness)
    (read : parse input strict = .ok name) : parse input lax = .ok name := by
  rw [parse_eq_ok_iff strictFormat strictReadable] at read
  rw [parse_eq_ok_iff laxFormat laxReadable]
  exact read.mono ⟨dialect, strictness⟩

/-- The permissive notation and the older one read every text alike, and strict version 3
reads only what they read, as the same name. -/
theorem parse_dialects (input : List UInt8) (flags : NameFlags) :
    parse input (flags.withFormat (NameFlags.ofFormat .ldap).bits) =
        parse input (flags.withFormat (NameFlags.ofFormat .ldapV2).bits) ∧
      ∀ name, parse input (flags.withFormat (NameFlags.ofFormat .ldapV3).bits) = .ok name →
        parse input (flags.withFormat (NameFlags.ofFormat .ldap).bits) = .ok name ∧
          parse input (flags.withFormat (NameFlags.ofFormat .ldapV2).bits) = .ok name := by
  have format := flags.format?_withFormat
  have strictness := flags.strictness_withFormat
  constructor
  · apply parse_congr
    rw [NameFlags.rules_eq (format .ldap) rfl, NameFlags.rules_eq (format .ldapV2) rfl,
      strictness, strictness]
  · intro name read
    have laxer : ∀ form, (flags.withFormat (NameFlags.ofFormat form).bits).strictness.Laxer
        (flags.withFormat (NameFlags.ofFormat .ldapV3).bits).strictness := by
      intro form
      rw [strictness, strictness]
      exact .refl _
    exact ⟨parse_mono (format .ldap) rfl (format .ldapV3) rfl .lenient (laxer _) read,
      parse_mono (format .ldapV2) rfl (format .ldapV3) rfl .lenient (laxer _) read⟩

theorem parse_dialects_escaped_semicolon :
    parse (octetsOf "cn = a\\;b + 2.5.4.3=#48 , dc=\\ x ") ⟨0x8015⟩ =
        .ok ⟨[⟨.string "cn" "a;b", [⟨"2.5.4.3", "H", .binary⟩]⟩, ⟨.string "dc" " x", []⟩]⟩ ∧
      parse (octetsOf "cn = a\\;b + 2.5.4.3=#48 , dc=\\ x ") ⟨0x8005⟩ =
        .ok ⟨[⟨.string "cn" "a;b", [⟨"2.5.4.3", "H", .binary⟩]⟩, ⟨.string "dc" " x", []⟩]⟩ ∧
      parse (octetsOf "cn = a\\;b + 2.5.4.3=#48 , dc=\\ x ") ⟨0x8025⟩ =
        .ok ⟨[⟨.string "cn" "a;b", [⟨"2.5.4.3", "H", .binary⟩]⟩, ⟨.string "dc" " x", []⟩]⟩ := by
  have read : parse (octetsOf "cn = a\\;b + 2.5.4.3=#48 , dc=\\ x ") ⟨0x8015⟩ =
      .ok ⟨[⟨.string "cn" "a;b", [⟨"2.5.4.3", "H", .binary⟩]⟩, ⟨.string "dc" " x", []⟩]⟩ := by
    decide +kernel
  exact ⟨read, (parse_dialects _ ⟨0x8005⟩).2 _ read⟩

/-- Strictness only refuses: what is read under all its bits is read without some of them, as
the same name. Of a flag word only the format nibble and the three strictness predicates
matter for what is read or refused, and in path notation only the one about escapes. -/
theorem parse_strictness :
    (∀ (input : List UInt8) (lax strict : NameFlags) (name : Dn),
      lax.formatBits = strict.formatBits →
      (lax.noEdgeSpaces = true → strict.noEdgeSpaces = true) →
      (lax.noSpaceAfterSeparator = true → strict.noSpaceAfterSeparator = true) →
      (lax.isPedantic = true → strict.isPedantic = true) →
      parse input strict = .ok name → parse input lax = .ok name) ∧
    (∀ (input : List UInt8) (first second : NameFlags),
      first.formatBits = second.formatBits →
      first.noEdgeSpaces = second.noEdgeSpaces →
      first.noSpaceAfterSeparator = second.noSpaceAfterSeparator →
      first.isPedantic = second.isPedantic → parse input first = parse input second) ∧
    ∀ (input : List UInt8) (first second : NameFlags),
      first.format? = some .dce → second.format? = some .dce →
      first.isPedantic = second.isPedantic → parse input first = parse input second := by
  refine ⟨?_, ?_, ?_⟩
  · intro input lax strict name nibble edgeSpaces separators escapes read
    obtain ⟨form, dialect, format, readable⟩ := exists_dialect_of_parse read
    have laxFormat := (NameFlags.format?_congr nibble).trans format
    exact parse_mono laxFormat readable format readable (.same dialect)
      ⟨edgeSpaces, separators, escapes⟩ read
  · intro input first second nibble edgeSpaces separators escapes
    refine parse_congr (NameFlags.rules_congr nibble ?_) input
    rw [NameFlags.strictness, NameFlags.strictness, edgeSpaces, separators, escapes]
  · intro input first second firstFormat secondFormat escapes
    have agree : first.strictness.needfulEscapesOnly = second.strictness.needfulEscapesOnly :=
      escapes
    simp only [parse, NameFlags.rules_eq firstFormat rfl, NameFlags.rules_eq secondFormat rfl,
      Reading.readName_dce agree]

theorem parse_strictness_pedantic :
    (parse (octetsOf "cn=\\ a\\2C,dc=x=") ⟨0xF010⟩ =
        .ok ⟨[⟨.string "cn" " a,", []⟩, ⟨.string "dc" "x=", []⟩]⟩ ∧
      parse (octetsOf "cn=\\ a\\2C,dc=x=") ⟨0x2011⟩ =
        .ok ⟨[⟨.string "cn" " a,", []⟩, ⟨.string "dc" "x=", []⟩]⟩) ∧
    parse (octetsOf "cn=a, dc=\\q") ⟨0x3000⟩ = parse (octetsOf "cn=a, dc=\\q") ⟨0xB00F⟩ ∧
    parse (octetsOf "/cn= a /dc=\\q") ⟨0x30⟩ = parse (octetsOf "/cn= a /dc=\\q") ⟨0x3030⟩ := by
  have read : parse (octetsOf "cn=\\ a\\2C,dc=x=") ⟨0xF010⟩ =
      .ok ⟨[⟨.string "cn" " a,", []⟩, ⟨.string "dc" "x=", []⟩]⟩ := by
    decide +kernel
  exact ⟨⟨read, parse_strictness.1 _ _ _ _ (by decide) (by decide) (by decide) (by decide) read⟩,
    parse_strictness.2.1 _ _ _ (by decide) (by decide) (by decide) (by decide),
    parse_strictness.2.2 _ _ _ (by decide) (by decide) (by decide)⟩

end Dn

end DirectoryName

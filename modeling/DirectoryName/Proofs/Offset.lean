import DirectoryName.Proofs.Reading.Continuation
import DirectoryName.Proofs.Reading.Fault

namespace DirectoryName

/-! The offsets of syntax faults.

Up to the reported octet a text can be completed, so none of the octets before it is to blame.
The readers look at UTF-8 only when a value is complete, so a text whose value is spoilt by then
is an exception. -/

theorem Reading.readName_before_fault {rules : Rules} {input : List UInt8} {stuck : Stuck}
    (read : readName rules input = .error stuck)
    (syntactic : stuck.fault.code = ResultCode.invalidSyntax) :
    ∃ used, input = used ++ stuck.rest ∧
      ((∃ more name, NameSpelling rules name (used ++ more)) ∨ Spoilt rules used ∨
        stuck.fault = .hexDigitsOdd ∧ ∃ opening value, AvaOpening rules opening ∧
          HasWrongDigit rules.dialect value ∧ NameBreak rules (opening ++ value) used) := by
  obtain ⟨used, same, broken⟩ := readName_stuck read syntactic
  refine ⟨used, same, ?_⟩
  rcases broken with rfl | ⟨last, broken, within⟩
  · have root : readName rules [] = .ok Dn.root := rfl
    exact .inl ⟨[], _, readName_eq_ok_iff.mp root⟩
  cases broken with
  | completable spelled noSpace =>
      obtain ⟨name, completed⟩ := within.complete spelled fun _ => noSpace
      exact .inl ⟨_, name, completed⟩
  | @inValue opening value octets cut opened begun =>
      by_cases hopeful : ∃ whole : String, cut.Allows octets (octetsOf whole)
      · obtain ⟨whole, allowed⟩ := hopeful
        obtain ⟨more, ava, spelled⟩ := opened.complete begun allowed
        obtain ⟨name, completed⟩ := within.complete spelled fun empty => by
          cases opened
          simp at empty
        exact .inl ⟨more, name, completed⟩
      · exact .inr (.inl ⟨opening, value, octets, cut, opened, begun, within,
          not_exists.mp hopeful⟩)
  | wrongDigit opened odd wrong =>
      exact .inr (.inr ⟨odd, _, _, opened, wrong, within⟩)

namespace Dn

theorem avaOpening_cn (strictness : Strictness) :
    AvaOpening ⟨.lenient, strictness⟩ (octetsOf "cn=") := by
  have none := Reading.padding_nil ⟨.lenient, strictness⟩
  have typed : TypeSpelling .lenient "cn" (octetsOf "cn") := by
    refine .descriptor ⟨0x63, [0x6E], by decide, by decide, ?_⟩
    rw [List.forall_mem_singleton]
    decide
  exact .intro none typed none none

/-- No UTF-8 begins with the octet FF, and a value is complete before it is looked at. -/
theorem spoilt_of_ff (strictness : Strictness) :
    Spoilt ⟨.lenient, strictness⟩ (octetsOf "cn=\\ff") := by
  have digit : HexDigit 0x66 0xF := .lower 0xF (by decide) (by decide)
  have begun : ValueBeginning ⟨.lenient, strictness⟩ [0xFF] .between (octetsOf "\\ff") :=
    .plain (.between (.escape (.pair digit digit) .nil)) (by decide) fun _ => by decide
  refine ⟨octetsOf "cn=", octetsOf "\\ff", [0xFF], .between, avaOpening_cn strictness, begun,
    .here .here, ?_⟩
  rintro whole ⟨rest, same⟩
  have decoded := Utf8.decode_encode whole.toList
  rw [← octetsOf, ← same] at decoded
  simp [Utf8.decode, Utf8.decodeChar?, Utf8.announced] at decoded

/-- Where a text is rejected for its syntax, the octets before the reported one can be
completed, unless a value in them is spoilt, and then they cannot. Nothing is said of an odd
number of digits of which some are none. -/
theorem parse_offset :
    ∀ (flags : NameFlags) (form : Notation) (dialect : Dialect),
      flags.format? = some form → form.dialect? = some dialect →
        (∀ (input : List UInt8) (error : NameError) (offset : Nat),
          parse input flags = .error error → error.code = ResultCode.invalidSyntax →
            error.offset? = some offset → offset ≤ input.length ∧
              ((∃ more name, parse (input.take offset ++ more) flags = .ok name) ∨
                Spoilt ⟨dialect, flags.strictness⟩ (input.take offset) ∨
                error = .badSyntax offset .hexDigitsOdd ∧ ∃ opening value,
                  AvaOpening ⟨dialect, flags.strictness⟩ opening ∧ HasWrongDigit dialect value ∧
                  NameBreak ⟨dialect, flags.strictness⟩ (opening ++ value) (input.take offset))) ∧
        ∀ text, Spoilt ⟨dialect, flags.strictness⟩ text →
          ∀ more name, parse (text ++ more) flags ≠ .ok name := by
  intro flags form dialect format readable
  constructor
  · intro input error offset failed syntactic reported
    simp only [parse, NameFlags.rules_eq format readable] at failed
    split at failed
    · cases failed
    next stuck read =>
    cases failed
    cases reported
    obtain ⟨used, rfl, shown⟩ := Reading.readName_before_fault read syntactic
    simp only [List.length_append, Nat.add_sub_cancel, List.take_left,
      parse_eq_ok_iff format readable]
    refine ⟨Nat.le_add_right _ _, ?_⟩
    rcases shown with completed | spoilt | ⟨odd, wrong⟩
    · exact .inl completed
    · exact .inr (.inl spoilt)
    · exact .inr (.inr ⟨by rw [Stuck.toError, odd]; simp, wrong⟩)
  · intro text spoilt more name read
    rw [parse_eq_ok_iff format readable, ← Reading.readName_eq_ok_iff] at read
    exact spoilt.not_read read

theorem parse_offset_unfinished :
    NameFlags.default.format? = some .ldap ∧
      parse (octetsOf "cn=\\c3<") .default = .error (.badSyntax 6 (.octetUnescaped Octet.less)) ∧
      (∃ more name, parse ((octetsOf "cn=\\c3<").take 6 ++ more) .default = .ok name) ∧
      Spoilt ⟨.lenient, NameFlags.default.strictness⟩ (octetsOf "cn=\\ff") ∧
      ∀ more name, parse (octetsOf "cn=\\ff" ++ more) .default ≠ .ok name := by
  have failed : parse (octetsOf "cn=\\c3<") .default =
      .error (.badSyntax 6 (.octetUnescaped Octet.less)) := by decide +kernel
  have completed : parse (octetsOf "cn=\\c3" ++ octetsOf "\\a4") .default =
      .ok ⟨[⟨⟨"cn", "\u00E4", .nonprintable⟩, []⟩]⟩ := by decide +kernel
  obtain ⟨before, spoilt⟩ := parse_offset .default .ldap .lenient (by decide) rfl
  refine ⟨by decide, failed, ?_, spoilt_of_ff _, spoilt _ (spoilt_of_ff _)⟩
  obtain ⟨_, found | hopeless | ⟨odd, _⟩⟩ := before _ _ _ failed (by decide) rfl
  · exact found
  · exact absurd completed (spoilt _ hopeless _ _)
  · cases odd

/-- Two faults that are reported behind the octets to blame: a quote after octets that are not
UTF-8, and an odd number of digits of which one is none. -/
theorem parse_offset_behind_fault :
    NameFlags.default.format? = some .ldap ∧
      parse (octetsOf "cn=\\ff\"") .default = .error (.badSyntax 6 (.octetUnescaped Octet.quote)) ∧
      (NameError.badSyntax 6 (.octetUnescaped Octet.quote)).code = ResultCode.invalidSyntax ∧
      (∀ more name, parse ((octetsOf "cn=\\ff\"").take 6 ++ more) .default ≠ .ok name) ∧
      parse (octetsOf "cn=#z") .default = .error (.badSyntax 5 .hexDigitsOdd) ∧
      (NameError.badSyntax 5 .hexDigitsOdd).code = ResultCode.invalidSyntax ∧
      ∀ more name, parse ((octetsOf "cn=#z").take 5 ++ more) .default ≠ .ok name := by
  refine ⟨by decide, by decide +kernel, by decide, ?_, by decide +kernel, by decide, ?_⟩
  · intro more name read
    rw [@parse_eq_ok_iff .default .ldap .lenient _ _ (by decide) rfl,
      ← Reading.readName_eq_ok_iff] at read
    exact (spoilt_of_ff _).not_read read
  · intro more name read
    rw [@parse_eq_ok_iff .default .ldap .lenient _ _ (by decide) rfl,
      ← Reading.readName_eq_ok_iff] at read
    refine not_read_of_wrongDigit (avaOpening_cn _) (.here .here)
      ⟨[0x7A], rfl, rfl, ?_, 0x7A, List.mem_cons_self, ?_⟩ read
    · rw [List.forall_mem_singleton]
      decide
    · exact Octet.hexValue?_eq_none_iff.mp (by decide)

end Dn

end DirectoryName

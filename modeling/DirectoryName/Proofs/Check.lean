import DirectoryName.Proofs.Lines
import DirectoryName.Proofs.Workspace

namespace DirectoryName.CheckSummary

/-! Checking a batch counts every line once.

A summary is an account of its lines: what it says of one does not depend on the others, which
only decide its number. So summaries of texts that follow one another go together as the texts
do, and nothing but the lines counts of a text. -/

open CommandLine

variable {flags : NameFlags} {first number : Nat} {line message : String}
  {lines others : List String} {summary : CheckSummary}

/-- The numbers of the lines that were rejected, with what is said of them. -/
def rejections (summary : CheckSummary) : List (Nat × String) :=
  summary.invalid.map fun invalid => (invalid.line, invalid.error.message)

def Rejects (flags : NameFlags) (line message : String) : Prop :=
  Text.isBlank line = false ∧
    ∃ error, Dn.parseText line flags = .error error ∧ error.message = message

def RejectsAt (flags : NameFlags) (first : Nat) (lines : List String) (number : Nat)
    (message : String) : Prop :=
  ∃ index line, number = first + index ∧ lines[index]? = some line ∧ Rejects flags line message

theorem rejectsAt_cons :
    RejectsAt flags first (line :: lines) number message ↔
      (number = first ∧ Rejects flags line message) ∨
        RejectsAt flags (first + 1) lines number message := by
  constructor
  · rintro ⟨_ | index, rejected, rfl, found, rejects⟩
    · cases found
      exact .inl ⟨rfl, rejects⟩
    · exact .inr ⟨index, rejected, by omega, found, rejects⟩
  · rintro (⟨rfl, rejects⟩ | ⟨index, rejected, rfl, found, rejects⟩)
    · exact ⟨0, line, rfl, rfl, rejects⟩
    · exact ⟨index + 1, rejected, by omega, found, rejects⟩

/-- The summary tells of lines, of which the first has the given number, which of them are
accepted and which rejected, and it tells of each line that is not blank. -/
structure Accounts (flags : NameFlags) (first : Nat) (lines : List String)
    (summary : CheckSummary) : Prop where
  accepted : summary.valid =
    lines.countP fun line => !Text.isBlank line && (Dn.parseText line flags).isOk
  rejected (number : Nat) (message : String) :
    (number, message) ∈ summary.rejections ↔ RejectsAt flags first lines number message
  ordered : (summary.rejections.map Prod.fst).Pairwise (· < ·)
  complete : summary.valid + summary.invalid.length =
    lines.countP fun line => !Text.isBlank line

namespace Accounts

theorem blank (accounts : Accounts flags (first + 1) lines summary)
    (blank : Text.isBlank line = true) : Accounts flags first (line :: lines) summary where
  accepted := by simp [accounts.accepted, blank]
  rejected number message := by
    have notRejected : ¬Rejects flags line message := fun rejects => by
      simp [rejects.1] at blank
    simp [rejectsAt_cons, accounts.rejected, notRejected]
  ordered := accounts.ordered
  complete := by simp [accounts.complete, blank]

theorem valid (accounts : Accounts flags (first + 1) lines summary)
    (counted : Text.isBlank line = false) {name : Dn} (read : Dn.parseText line flags = .ok name) :
    Accounts flags first (line :: lines) { summary with valid := summary.valid + 1 } where
  accepted := by simp [accounts.accepted, counted, read, Except.isOk, Except.toBool]
  rejected number message := by
    have notRejected : ¬Rejects flags line message := by simp [Rejects, read]
    rw [rejectsAt_cons, or_iff_right fun rejects => notRejected rejects.2]
    exact accounts.rejected number message
  ordered := accounts.ordered
  complete := by
    have complete := accounts.complete
    simp only [List.countP_cons, counted, Bool.not_false, if_true]
    omega

theorem invalid (accounts : Accounts flags (first + 1) lines summary)
    (counted : Text.isBlank line = false) {error : NameError}
    (read : Dn.parseText line flags = .error error) :
    Accounts flags first (line :: lines)
      { summary with invalid := ⟨first, error⟩ :: summary.invalid } where
  accepted := by simp [accounts.accepted, counted, read, Except.isOk, Except.toBool]
  rejected number message := by
    have rejects : Rejects flags line message ↔ error.message = message := by
      simp [Rejects, counted, read]
    rw [rejectsAt_cons, rejects, ← accounts.rejected, rejections, List.map_cons, List.mem_cons,
      Prod.mk.injEq, eq_comm (a := message)]
    rfl
  ordered := by
    refine List.pairwise_cons.mpr ⟨fun number member => ?_, accounts.ordered⟩
    obtain ⟨rejection, listed, rfl⟩ := List.mem_map.mp member
    obtain ⟨index, -, behind, -⟩ := (accounts.rejected _ rejection.2).mp listed
    change first < rejection.1
    omega
  complete := by
    have complete := accounts.complete
    simp only [List.countP_cons, counted, Bool.not_false, if_true, List.length_cons]
    omega

theorem addLine (accounts : Accounts flags (first + 1) lines summary) (line : String) :
    Accounts flags first (line :: lines) (summary.addLine first line flags) := by
  unfold CheckSummary.addLine
  split
  · next blank => exact accounts.blank blank
  · next counted =>
      have counted : Text.isBlank line = false := by simpa using counted
      split
      · next read => exact accounts.valid counted read
      · next read => exact accounts.invalid counted read

theorem invalid_ne_nil_iff (accounts : Accounts flags first lines summary) :
    summary.invalid ≠ [] ↔ ∃ line ∈ lines, ∃ message, Rejects flags line message := by
  have listed : summary.invalid ≠ [] ↔ ∃ rejection, rejection ∈ summary.rejections := by
    rw [← List.length_pos_iff_exists_mem, rejections, List.length_map, List.length_pos_iff]
  rw [listed]
  constructor
  · rintro ⟨⟨number, message⟩, member⟩
    obtain ⟨index, line, -, found, rejects⟩ := (accounts.rejected number message).mp member
    exact ⟨line, List.mem_of_getElem? found, message, rejects⟩
  · rintro ⟨line, member, message, rejects⟩
    obtain ⟨index, found⟩ := List.getElem?_of_mem member
    exact ⟨_, (accounts.rejected _ message).mpr ⟨index, line, rfl, found, rejects⟩⟩

end Accounts

theorem ofLines_accounts (flags : NameFlags) (first : Nat) (lines : List String) :
    Accounts flags first lines (ofLines first lines flags) := by
  induction lines generalizing first with
  | nil => exact ⟨rfl, by simp [ofLines, rejections, RejectsAt], .nil, rfl⟩
  | cons line lines ih => exact (ih (first + 1)).addLine line

/-- The summary of lines and of the lines behind them. -/
def append (summary later : CheckSummary) : CheckSummary :=
  ⟨summary.valid + later.valid, summary.invalid ++ later.invalid⟩

/-- The summary of the same lines behind `count` others. -/
def shift (count : Nat) (summary : CheckSummary) : CheckSummary :=
  { summary with
    invalid := summary.invalid.map fun invalid => ⟨invalid.line + count, invalid.error⟩ }

theorem addLine_append (number : Nat) (line : String) (flags : NameFlags)
    (summary later : CheckSummary) :
    (summary.append later).addLine number line flags =
      (summary.addLine number line flags).append later := by
  unfold addLine
  split
  · rfl
  · split
    · simp only [append, Nat.add_right_comm]
    · rfl

theorem addLine_shift (number count : Nat) (line : String) (flags : NameFlags)
    (summary : CheckSummary) :
    (summary.shift count).addLine (number + count) line flags =
      (summary.addLine number line flags).shift count := by
  unfold addLine
  split
  · rfl
  · split <;> rfl

theorem ofLines_append (number : Nat) (lines others : List String) (flags : NameFlags) :
    ofLines number (lines ++ others) flags =
      (ofLines number lines flags).append (ofLines (number + lines.length) others flags) := by
  induction lines generalizing number with
  | nil => simp [ofLines, append]
  | cons line lines ih =>
      rw [List.cons_append, ofLines, ofLines, ih, addLine_append, List.length_cons,
        Nat.add_assoc, Nat.add_comm 1]

theorem ofLines_shift (number count : Nat) (lines : List String) (flags : NameFlags) :
    ofLines (number + count) lines flags = (ofLines number lines flags).shift count := by
  induction lines generalizing number with
  | nil => rfl
  | cons line lines ih =>
      rw [ofLines, ofLines, Nat.add_right_comm, ih, addLine_shift]

theorem ofText_append {text : String} (ended : text.toList.getLast? = some '\n') (rest : String)
    (flags : NameFlags) :
    ofText (text ++ rest) flags =
      (ofText text flags).append ((ofText rest flags).shift (text.toList.count '\n')) := by
  have ended : ∀ last ∈ text.toList.getLast?, last = '\n' := by simp [ended]
  rw [ofText, Text.lines_append ended, ofLines_append,
    (Text.hasLines_lines text).length ended, ofLines_shift]
  rfl

theorem run_check {paths : Paths} {workspace : Workspace} {input text : String}
    (readable : workspace.source paths input = .ok (octetsOf text)) (failOnInvalid : Bool)
    (flags : NameFlags) :
    (workspace.run paths ⟨.check input failOnInvalid none, flags⟩).1 =
      if failOnInvalid && !(ofText text flags).invalid.isEmpty then
        .error (.linesInvalid (ofText text flags).invalid.length input)
      else .ok () := by
  have found := Workspace.textOf?_supplied readable
  rw [Workspace.run_eq_runRefusing, Workspace.runRefusing, CommandLine.run]
  simp only [runCheck, ExceptT.run_bind, StateT.run_bind, Workspace.run_readText, found, pure_bind]
  simp only [Except.mapError]
  generalize ofText text flags = summary
  cases failOnInvalid with
  | false => rfl
  | true => cases summary.invalid.isEmpty <;> rfl

/-- Whatever the lines, the summary is an account of them, and the command fails by it exactly
if it is asked to and a line was rejected. -/
theorem ofText_counts_each_line_once (flags : NameFlags) :
    (∀ text, ∃ lines, Text.HasLines text.toList lines ∧ Accounts flags 1 lines (ofText text flags) ∧
      ∀ (paths : Paths) (workspace : Workspace) input,
        workspace.source paths input = .ok (octetsOf text) →
          ((∃ failure, (workspace.run paths ⟨.check input true none, flags⟩).1 = .error failure) ↔
            ∃ line ∈ lines, ∃ message, Rejects flags line message) ∧
          (workspace.run paths ⟨.check input false none, flags⟩).1 = .ok ()) ∧
    (∀ text rest, text.toList.getLast? = some '\n' →
      ofText (text ++ rest) flags =
        (ofText text flags).append ((ofText rest flags).shift (text.toList.count '\n'))) ∧
    ∀ text, '\r' ∉ text.toList →
      ofText (String.ofList (Text.returning text.toList)) flags = ofText text flags := by
  refine ⟨fun text => ⟨Text.lines text, Text.hasLines_lines text, ofLines_accounts flags 1 _,
    fun paths workspace input readable => ⟨?_, ?_⟩⟩,
    fun text rest ended => ofText_append ended rest flags, fun text noReturn => ?_⟩
  · rw [← (ofLines_accounts flags 1 (Text.lines text)).invalid_ne_nil_iff, run_check readable,
      ← ofText]
    cases (ofText text flags).invalid <;> simp
  · rw [run_check readable]
    rfl
  · rw [ofText, Text.lines_returning noReturn]
    rfl

/-- The second line is blank though no space of ASCII is on it, and it has a number all the
same. -/
theorem ofText_counts_each_line_once_behind_blank :
    (ofText "cn=a\n\u3000\ncn\n" ⟨0⟩).rejections =
      [(3, "Invalid DN syntax at byte 2: Expected '=' after attribute type")] ∧
    (∃ failure, (Workspace.run .flat ⟨[("in", octetsOf "cn=a\n\u3000\ncn\n")], [], ""⟩
      ⟨.check "in" true none, ⟨0⟩⟩).1 = .error failure) ∧
    (Workspace.run .flat ⟨[("in", octetsOf "cn=a\n\u3000\ncn\n")], [], ""⟩
      ⟨.check "in" false none, ⟨0⟩⟩).1 = .ok () ∧
    ofText ("cn=a\n\u3000\ncn\n" ++ "\nx") ⟨0⟩ =
      (ofText "cn=a\n\u3000\ncn\n" ⟨0⟩).append ((ofText "\nx" ⟨0⟩).shift 3) ∧
    ofText "cn=a\r\n\u3000\r\ncn\r\n" ⟨0⟩ = ofText "cn=a\n\u3000\ncn\n" ⟨0⟩ := by
  obtain ⟨counts, seam, returning⟩ := ofText_counts_each_line_once ⟨0⟩
  obtain ⟨lines, hasLines, accounts, command⟩ := counts "cn=a\n\u3000\ncn\n"
  have found : lines = ["cn=a", "\u3000", "cn"] := hasLines.lines_eq.symm.trans (by decide +kernel)
  subst found
  obtain ⟨fails, passes⟩ := command .flat
    ⟨[("in", octetsOf "cn=a\n\u3000\ncn\n")], [], ""⟩ "in" (by decide +kernel)
  have rejects : Rejects ⟨0⟩ "cn" _ :=
    ⟨by decide +kernel, .badSyntax 2 .equalsExpected, by decide +kernel, rfl⟩
  have feeds : "cn=a\n\u3000\ncn\n".toList.count '\n' = 3 := by decide +kernel
  have returned : String.ofList (Text.returning "cn=a\n\u3000\ncn\n".toList) =
      "cn=a\r\n\u3000\r\ncn\r\n" := by decide +kernel
  have same := returning _ (show '\r' ∉ "cn=a\n\u3000\ncn\n".toList by decide +kernel)
  have joined := seam "cn=a\n\u3000\ncn\n" "\nx" (by decide +kernel)
  rw [feeds] at joined
  rw [returned] at same
  exact ⟨by decide +kernel, fails.mpr ⟨"cn", by simp, _, rejects⟩, passes, joined, same⟩

end DirectoryName.CheckSummary

import DirectoryName.Json
import DirectoryName.Reading.Name
import DirectoryName.Text.Lines

namespace DirectoryName

/-! Checking a batch of names, one to a line.

Blank lines are passed over but counted in the numbering, which starts at one. -/

structure InvalidLine where
  line : Nat
  error : NameError
deriving DecidableEq, Repr

structure CheckSummary where
  valid : Nat
  invalid : List InvalidLine
deriving DecidableEq, Repr

namespace CheckSummary

def addLine (number : Nat) (line : String) (flags : NameFlags) (summary : CheckSummary) :
    CheckSummary :=
  if Text.isBlank line then summary
  else
    match Dn.parseText line flags with
    | .ok _ => { summary with valid := summary.valid + 1 }
    | .error error => { summary with invalid := ⟨number, error⟩ :: summary.invalid }

/-- The summary of lines of which the first has the given number. -/
def ofLines (number : Nat) (lines : List String) (flags : NameFlags) : CheckSummary :=
  match lines with
  | [] => ⟨0, []⟩
  | line :: rest => (ofLines (number + 1) rest flags).addLine number line flags

def ofText (text : String) (flags : NameFlags) : CheckSummary :=
  ofLines 1 (Text.lines text) flags

def toJson (summary : CheckSummary) : Json :=
  .object [
    ("valid", .natural summary.valid),
    ("invalid", .array (summary.invalid.map fun invalid =>
      .object [("line", .natural invalid.line), ("error", .string invalid.error.message)]))]

def report (summary : CheckSummary) : String :=
  "\n=== Check Results ===\n" ++
    "Valid DNs:          " ++ toString summary.valid ++ "\n" ++
    (if summary.invalid.isEmpty then
      "Invalid DNs:        0\n✓ All DNs valid\n"
    else
      "Invalid DNs:        " ++ toString summary.invalid.length ++ "\n" ++
        String.join (summary.invalid.map fun invalid =>
          "✗ line " ++ toString invalid.line ++ ": " ++ invalid.error.message ++ "\n"))

end CheckSummary

end DirectoryName

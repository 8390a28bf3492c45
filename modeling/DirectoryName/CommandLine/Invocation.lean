import DirectoryName.CommandLine.Words

namespace DirectoryName.CommandLine

/-! The commands and their options. -/

inductive Command where
  | parse (name : String) (output? : Option String) (pretty : Bool)
  | build (input : String) (output? : Option String)
  | explode (name : String) (valuesOnly firstRdn : Bool) (output? : Option String)
  | check (input : String) (failOnInvalid : Bool) (report? : Option String)
  | compare (left right : String) (folded : List String)
deriving DecidableEq, Repr

structure Invocation where
  command : Command
  flags : NameFlags
deriving DecidableEq, Repr

namespace Level

def marking (long : String) (setting : Setting) (short? : Option Char) : OptionRule :=
  ⟨long, short?, .mark setting, false⟩

def taking (long : String) (setting : String → Setting) (short? : Option Char) : OptionRule :=
  ⟨long, short?, .take fun value => .ok (setting value), false⟩

def format : OptionRule where
  long := "format"
  short? := none
  action := .take fun value =>
    match readFormat? value with
    | some form => .ok (.format form)
    | none => .error .usage
  repeats := false

def flagWord : OptionRule where
  long := "flags"
  short? := none
  action := .take fun value =>
    match readFlagWord value with
    | .ok word => .ok (.flagWord word)
    | .error fault => .error (.badFlagWord value fault)
  repeats := false

/-- Takes a list of types separated by commas, and may be given again for more. -/
def foldCase : OptionRule where
  long := "ignore-case"
  short? := none
  action := .take fun value => .ok (.foldCase ((value.toList.splitOn ',').map String.ofList))
  repeats := true

def strict : OptionRule := marking "strict" .strict none
def verbose : OptionRule := marking "verbose" .verbose (some 'v')
def input : OptionRule := taking "input" .input (some 'i')
def output : OptionRule := taking "output" .output (some 'o')
def report : OptionRule := taking "report" .report none
def help : OptionRule := ⟨"help", some 'h', .stop .helpAsked, false⟩
def version : OptionRule := ⟨"version", some 'V', .stop .versionAsked, false⟩

/-- The options that may stand before and after the name of a command. -/
def shared : List OptionRule := [format, strict, flagWord, verbose, help]

def flagOptions : Level := ⟨[format, strict, flagWord, help], 0, []⟩

def program : Level where
  rules := version :: shared
  operands := 0
  commands := ["parse", "build", "explode", "check", "compare", "help"]

def parse : Level := ⟨output :: marking "pretty" .pretty none :: shared, 1, []⟩
def build : Level := ⟨input :: output :: shared, 0, []⟩

def explode : Level :=
  ⟨marking "notypes" .valuesOnly none :: marking "rdn" .firstRdn none :: output :: shared, 1, []⟩

def check : Level :=
  ⟨input :: marking "fail-on-invalid" .failOnInvalid none :: report :: shared, 0, []⟩

def compare : Level := ⟨foldCase :: shared, 2, []⟩

end Level

/-- Settings, the ones that count more in front. -/
abbrev Settings := List Setting

namespace Settings

def format (settings : Settings) : Notation :=
  (settings.findSome? fun
    | .format form => some form
    | _ => none).getD .ldap

def flagWord? (settings : Settings) : Option UInt32 :=
  settings.findSome? fun
    | .flagWord word => some word
    | _ => none

def flagOptions (settings : Settings) : FlagOptions where
  format := settings.format
  strict := settings.contains .strict
  word? := settings.flagWord?

def output? (settings : Settings) : Option String :=
  settings.findSome? fun
    | .output path => some path
    | _ => none

/-- The input, which is the standard input unless a path is given. -/
def input (settings : Settings) : String :=
  (settings.findSome? fun
    | .input path => some path
    | _ => none).getD "-"

def report? (settings : Settings) : Option String :=
  settings.findSome? fun
    | .report path => some path
    | _ => none

/-- The registered types, in the order given. -/
def folded (settings : Settings) : List String :=
  settings.reverse.flatMap fun
    | .foldCase types => types
    | _ => []

end Settings

def Scan.made (scan : Scan) : Settings :=
  scan.settings.map (·.2)

/-- Reads flag options and nothing else. -/
def readFlagOptions (words : List String) : Except Refusal FlagOptions := do
  let (scan, _) ← Scan.start.words .flagOptions words
  let scan ← scan.settle
  return scan.made.flagOptions

def readLevel (level : Level) (words : List String) : Except Refusal (Settings × List String) := do
  let (scan, _) ← Scan.start.words level words
  let scan ← scan.settle
  return (scan.made, scan.operands.reverse)

def readCommand (name : String) (words : List String) : Except Refusal (Settings × Command) :=
  match name with
  | "parse" => do
      match ← readLevel .parse words with
      | (made, [dn]) => return (made, .parse dn made.output? (made.contains .pretty))
      | _ => .error .usage
  | "build" => do
      let (made, _) ← readLevel .build words
      return (made, .build made.input made.output?)
  | "explode" => do
      match ← readLevel .explode words with
      | (made, [dn]) =>
          return (made,
            .explode dn (made.contains .valuesOnly) (made.contains .firstRdn) made.output?)
      | _ => .error .usage
  | "check" => do
      let (made, _) ← readLevel .check words
      return (made, .check made.input (made.contains .failOnInvalid) made.report?)
  | "compare" => do
      match ← readLevel .compare words with
      | (made, [left, right]) => return (made, .compare left right made.folded)
      | _ => .error .usage
  | _ =>
      if words.length ≤ 1 && words.all Level.program.commands.contains then .error .helpAsked
      else .error .usage

/-- What a whole command line asks for. A shared option counts more behind the name of
the command than before it. -/
def readInvocation (words : List String) : Except Refusal Invocation := do
  match ← Scan.start.words .program words with
  | (_, none) => .error .usage
  | (scan, some (name, rest)) =>
      let (inner, command) ← readCommand name rest
      let scan ← scan.settle
      return ⟨command, (Settings.flagOptions (inner ++ scan.made)).flags⟩

end DirectoryName.CommandLine

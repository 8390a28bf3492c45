import DirectoryName.CommandLine.FlagOptions

namespace DirectoryName.CommandLine

/-! The words of a command line.

Words are taken from left to right. An option finds its value in its own word, or in
the next word if that does not look like an option; a value from the next word is
examined when another known option or an operand comes, or at the end. Two hyphens
alone make operands of all words after them. -/

inductive Setting where
  | format (form : Notation)
  | strict
  | flagWord (word : UInt32)
  | verbose
  | input (path : String)
  | output (path : String)
  | report (path : String)
  | pretty
  | valuesOnly
  | firstRdn
  | failOnInvalid
  | foldCase (types : List String)
deriving DecidableEq, Repr

inductive Refusal where
  | usage
  | badFlagWord (text : String) (fault : NumberFault)
  | helpAsked
  | versionAsked
deriving DecidableEq, Repr

/-- What is said about a refusal beyond how to use the program. -/
def Refusal.message? : Refusal → Option String
  | .badFlagWord text fault =>
      some ("invalid flag bitmask " ++ Text.quoted text ++ ": " ++ fault.message)
  | _ => none

inductive Action where
  | mark (setting : Setting)
  | take (read : String → Except Refusal Setting)
  /-- Ends the reading of words. -/
  | stop (refusal : Refusal)

structure OptionRule where
  long : String
  short? : Option Char
  action : Action
  /-- Whether the option may be given more than once. -/
  repeats : Bool

/-- What may stand on a command line up to the name of a command. -/
structure Level where
  rules : List OptionRule
  operands : Nat
  commands : List String

/-- An option whose value is due, or given but not yet examined. -/
inductive Pending where
  | nothing
  | due (rule : OptionRule) (read : String → Except Refusal Setting)
  | given (rule : OptionRule) (read : String → Except Refusal Setting) (value : String)

def Pending.isDue : Pending → Bool
  | .due .. => true
  | _ => false

/-- What has been read so far; settings and operands come latest first. -/
structure Scan where
  /-- The settings, each with the name of its option. -/
  settings : List (String × Setting)
  operands : List String
  pending : Pending
  operandsOnly : Bool

namespace Scan

def start : Scan := ⟨[], [], .nothing, false⟩

def set (scan : Scan) (rule : OptionRule) (setting : Except Refusal Setting) :
    Except Refusal Scan :=
  if !rule.repeats && scan.settings.any (·.1 == rule.long) then .error .usage
  else setting.map fun setting => { scan with settings := (rule.long, setting) :: scan.settings }

/-- Examines the value that is pending. -/
def settle (scan : Scan) : Except Refusal Scan :=
  match scan.pending with
  | .nothing => .ok scan
  | .due _ _ => .error .usage
  | .given rule read value => { scan with pending := .nothing }.set rule (read value)

/-- An option with the value from its own word, if it has one. -/
def option (scan : Scan) (rule : OptionRule) (value? : Option String) : Except Refusal Scan :=
  match rule.action, value? with
  | .take read, some value => do (← scan.settle).set rule (read value)
  | .take read, none => do return { ← scan.settle with pending := .due rule read }
  | .mark setting, none => do (← scan.settle).set rule (.ok setting)
  | .stop refusal, none => do
      let _ ← scan.settle
      .error refusal
  | _, some _ => .error .usage

def operand (scan : Scan) (level : Level) (word : String) : Except Refusal Scan :=
  if scan.operands.length < level.operands then do
    let scan ← scan.settle
    return { scan with operands := word :: scan.operands }
  else .error .usage

/-- A word behind two hyphens. -/
def long (scan : Scan) (level : Level) (word : List Char) : Except Refusal Scan :=
  let name := String.ofList (word.takeWhile (· != '='))
  let value? :=
    match word.dropWhile (· != '=') with
    | [] => none
    | _ :: value => some (String.ofList value)
  match level.rules.find? (·.long == name) with
  | none => .error .usage
  | some rule => scan.option rule value?

/-- The value that the rest of a word of short options holds, perhaps behind an equals sign. -/
def shortValue? (rest : List Char) : Option String :=
  match rest with
  | [] => none
  | '=' :: value => some (String.ofList value)
  | value => some (String.ofList value)

/-- A word of short options behind one hyphen. -/
def shorts (scan : Scan) (level : Level) (word : List Char) : Except Refusal Scan :=
  match word with
  | [] => .ok scan
  | name :: rest =>
      match level.rules.find? (·.short? == some name) with
      | none => .error .usage
      | some rule =>
          match rule.action with
          | .take _ => scan.option rule (shortValue? rest)
          | _ => do shorts (← scan.option rule none) level rest

def word (scan : Scan) (level : Level) (word : String) : Except Refusal Scan :=
  if scan.operandsOnly then scan.operand level word
  else
    match word.toList with
    | ['-', '-'] => .ok { scan with operandsOnly := true }
    | '-' :: '-' :: rest => scan.long level rest
    | '-' :: first :: rest => scan.shorts level (first :: rest)
    | _ =>
        match scan.pending with
        | .due rule read => .ok { scan with pending := .given rule read word }
        | _ => scan.operand level word

/-- Reads words up to the name of a command; also returns that name and the words
after it, if there is one. -/
def words (scan : Scan) (level : Level) (words : List String) :
    Except Refusal (Scan × Option (String × List String)) :=
  match words with
  | [] => .ok (scan, none)
  | first :: rest =>
      if !scan.operandsOnly && !scan.pending.isDue && level.commands.contains first then
        .ok (scan, some (first, rest))
      else do Scan.words (← scan.word level first) level rest

end Scan

end DirectoryName.CommandLine

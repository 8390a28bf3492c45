import DirectoryName.Proofs.Workspace

namespace DirectoryName.CommandLine

/-! Commands that write a file write it whole or not at all.

All that can fail comes before the one write, and the write is the last thing that can. So
a command ends in one of two ways: its result stands in the output and nothing else has
changed, or it failed and nothing has changed, even where input and output are one file. -/

def Command.output? : Command → Option String
  | .parse _ output? _ | .build _ output? | .explode _ _ _ output? => output?
  | .check .. | .compare .. => none

/-- The text that a command makes where its input holds what is supplied. -/
inductive Renders (supplied : String → Except FileFault (List UInt8)) (flags : NameFlags) :
    Command → String → Prop where
  | parse {text : String} {output? : Option String} {name : Dn}
      (read : Dn.parseText text flags = .ok name) (pretty : Bool) :
      Renders supplied flags (.parse text output? pretty)
        (if pretty then name.toJson.pretty else name.toJson.compact)
  | build {input text result : String} {output? : Option String} {value : Json} {name : Dn}
      (found : supplied input = .ok (octetsOf text))
      (json : Json.read? Json.maxDepth text = some value) (shaped : Dn.ofJson value = .ok name)
      (written : name.build flags = .ok result) :
      Renders supplied flags (.build input output?) result
  | explode {text : String} {valuesOnly : Bool} {output? : Option String} {parts : List String}
      (taken : Dn.explode text valuesOnly flags = .ok parts) :
      Renders supplied flags (.explode text valuesOnly false output?) ("\n".intercalate parts)
  | explodeRdn {text : String} {valuesOnly : Bool} {output? : Option String}
      {parts : List String} (taken : Dn.explodeRdn text valuesOnly flags = .ok parts) :
      Renders supplied flags (.explode text valuesOnly true output?) ("\n".intercalate parts)

variable {supplied : String → Except FileFault (List UInt8)} {flags : NameFlags}
  {text result : String} {output? : Option String}

theorem renders_parse_iff {pretty : Bool} :
    Renders supplied flags (.parse text output? pretty) result ↔
      parsed text flags pretty = .ok result := by
  constructor
  · rintro ⟨read⟩
    rw [parsed, read]
  · intro made
    unfold parsed at made
    split at made
    · cases made
    · next read =>
        cases made
        exact .parse read pretty

theorem built_eq_ok_iff :
    built text flags = .ok result ↔
      ∃ value name, Json.read? Json.maxDepth text = some value ∧ Dn.ofJson value = .ok name ∧
        name.build flags = .ok result := by
  rw [built]
  cases Json.read? Json.maxDepth text with
  | none => simp
  | some value =>
      simp only [Dn.buildJson, Option.some.injEq, exists_and_left, exists_eq_left']
      cases Dn.ofJson value with
      | error error => simp [Except.mapError]
      | ok name =>
          simp only [Except.ok.injEq, exists_eq_left']
          cases name.build flags <;> simp [Except.mapError]

theorem renders_explode_iff {valuesOnly firstRdn : Bool} :
    Renders supplied flags (.explode text valuesOnly firstRdn output?) result ↔
      exploded text valuesOnly firstRdn flags = .ok result := by
  constructor
  · rintro ⟨⟩
    · next taken => simp [exploded, taken]
    · next taken => simp [exploded, taken]
  · intro made
    cases firstRdn <;> simp only [exploded, Bool.false_eq_true, if_false, if_true] at made <;>
      split at made
    · next taken =>
        cases made
        exact .explode taken
    · cases made
    · next taken =>
        cases made
        exact .explodeRdn taken
    · cases made

namespace Workspace

variable {paths : Paths} {workspace : Workspace} {refused : Access → Option FileFault}

theorem renders_build_iff {input : String} :
    Renders (workspace.supplied paths refused) flags (.build input output?) result ↔
      workspace.builtFrom paths refused input flags = .ok result := by
  constructor
  · rintro ⟨⟩
    next text value name json shaped found written =>
      rw [builtFrom, textOf?_eq_ok_iff.mpr found]
      exact built_eq_ok_iff.mpr ⟨value, name, json, shaped, written⟩
  · intro made
    unfold builtFrom at made
    split at made
    · cases made
    · next found =>
        obtain ⟨value, name, json, shaped, written⟩ := built_eq_ok_iff.mp made
        exact .build (textOf?_eq_ok_iff.mp found) json shaped written

/-- A command with an output makes its text, if all goes well, and delivers it. -/
theorem exists_delivered (paths : Paths) (workspace : Workspace)
    (refused : Access → Option FileFault) {invocation : Invocation} {path : String}
    (writes : invocation.command.output? = some path) :
    ∃ made,
      (∀ text,
        Renders (workspace.supplied paths refused) invocation.flags invocation.command text ↔
          made = .ok text) ∧
      workspace.runRefusing paths refused invocation =
        workspace.delivered paths refused (some path) made := by
  obtain ⟨command, flags⟩ := invocation
  cases command with
  | parse text output? pretty =>
      cases writes
      exact ⟨_, fun _ => renders_parse_iff,
        runRefusing_parse paths workspace refused text _ pretty flags⟩
  | build input output? =>
      cases writes
      exact ⟨_, fun _ => renders_build_iff,
        runRefusing_build paths workspace refused input _ flags⟩
  | explode text valuesOnly firstRdn output? =>
      cases writes
      exact ⟨_, fun _ => renders_explode_iff,
        runRefusing_explode paths workspace refused text _ valuesOnly firstRdn flags⟩
  | check => cases writes
  | compare => cases writes

theorem delivered_error {path : String} {made : Except Failure String}
    (hindered : ∀ text name, made = .ok text → refused (.writing path) = none →
      workspace.resolve paths true path ≠ .ok name) :
    ∃ failure,
      workspace.delivered paths refused (some path) made = (.error failure, workspace) := by
  cases made with
  | error failure => exact ⟨failure, rfl⟩
  | ok text =>
      rw [delivered, written]
      cases granted : refused (.writing path) with
      | some fault => exact ⟨_, rfl⟩
      | none =>
          cases leads : workspace.resolve paths true path with
          | error fault => exact ⟨_, rfl⟩
          | ok name => exact absurd leads (hindered text name rfl granted)

/-- However a command with an output ends, it has either written the whole of its text and
nothing else, or nothing at all; and it fails only if it has no text or cannot write. -/
theorem runRefusing_writes_whole_or_nothing (paths : Paths) (workspace : Workspace)
    (refused : Access → Option FileFault) (invocation : Invocation) {path : String}
    (writes : invocation.command.output? = some path) :
    (∃ text name after,
      Renders (workspace.supplied paths refused) invocation.flags invocation.command text ∧
      refused (.writing path) = none ∧ workspace.resolve paths true path = .ok name ∧
      workspace.runRefusing paths refused invocation = (.ok (), after) ∧
      after.content? name = some (octetsOf text) ∧
      (∀ other, other ≠ name → after.content? other = workspace.content? other) ∧
      after.output = workspace.output ∧ after.input = workspace.input) ∨
    (∃ failure, workspace.runRefusing paths refused invocation = (.error failure, workspace)) ∧
      ∀ text name,
        Renders (workspace.supplied paths refused) invocation.flags invocation.command text →
        refused (.writing path) = none → workspace.resolve paths true path ≠ .ok name := by
  obtain ⟨made, renders, run⟩ := exists_delivered paths workspace refused writes
  simp only [renders, run]
  by_cases done : ∃ text name, made = .ok text ∧ refused (.writing path) = none ∧
    workspace.resolve paths true path = .ok name
  · obtain ⟨text, name, rfl, granted, leads⟩ := done
    exact .inl ⟨text, name, _, rfl, granted, leads, delivered_ok granted leads text,
      content?_put workspace name _, fun other differs => content?_put_of_ne workspace differs _,
      rfl, rfl⟩
  · have hindered : ∀ text name, made = .ok text → refused (.writing path) = none →
        workspace.resolve paths true path ≠ .ok name :=
      fun text name isMade granted leads => done ⟨text, name, isMade, granted, leads⟩
    exact .inr ⟨delivered_error hindered, hindered⟩

/-- The file that is read is the one that is written; another holds no text; a third access is
refused after the result has been made; a fourth leads out of the directory. -/
theorem runRefusing_writes_whole_or_nothing_in_place :
    let stored := octetsOf "[[[\"cn\",\"x,\",0]]]"
    let workspace : Workspace := ⟨[("a", stored), ("b", [0xFF])], [], ""⟩
    (∃ after, workspace.run .flat ⟨.build "a" (some "./a"), ⟨0⟩⟩ = (.ok (), after) ∧
      after.content? "a" = some (octetsOf "cn=x\\,") ∧ after.content? "b" = some [0xFF]) ∧
    (∃ failure, workspace.run .flat ⟨.build "b" (some "a"), ⟨0⟩⟩ = (.error failure, workspace)) ∧
    (∃ failure, workspace.runRefusing .flat (fun _ => some .isDirectory)
      ⟨.parse "cn=x" (some "a") true, ⟨0⟩⟩ = (.error failure, workspace)) ∧
    ∃ after, workspace.run .apart ⟨.build "a" (some "/srv/../b"), ⟨0⟩⟩ = (.ok (), after) ∧
      after.content? "/srv/../b" = some (octetsOf "cn=x\\,") ∧
      after.content? "b" = some [0xFF] := by
  intro stored workspace
  have built {paths : Paths} {path name : String} (differs : "b" ≠ name)
      (made : workspace.builtFrom paths (fun _ => none) "a" ⟨0⟩ = .ok "cn=x\\,")
      (leads : workspace.resolve paths true path = .ok name) :
      ∃ after, workspace.run paths ⟨.build "a" (some path), ⟨0⟩⟩ = (.ok (), after) ∧
        after.content? name = some (octetsOf "cn=x\\,") ∧ after.content? "b" = some [0xFF] := by
    obtain ⟨text, name, after, renders, -, leads', run, written, others, -⟩ | ⟨-, hindered⟩ :=
      runRefusing_writes_whole_or_nothing paths workspace (fun _ => none)
        ⟨.build "a" (some path), ⟨0⟩⟩ rfl
    · obtain rfl := Except.ok.inj ((renders_build_iff.mp renders).symm.trans made)
      obtain rfl := Except.ok.inj (leads'.symm.trans leads)
      exact ⟨after, run, written, (others "b" differs).trans rfl⟩
    · exact absurd leads (hindered _ name (renders_build_iff.mpr made) rfl)
  refine ⟨built (by decide) (by decide +kernel) (by decide +kernel), ?_, ?_,
    built (by decide) (by decide +kernel) rfl⟩
  · obtain ⟨_, _, _, renders, -⟩ | ⟨failed, -⟩ :=
      runRefusing_writes_whole_or_nothing .flat workspace (fun _ => none)
        ⟨.build "b" (some "a"), ⟨0⟩⟩ rfl
    · have unreadable : workspace.builtFrom .flat (fun _ => none) "b" ⟨0⟩ =
          .error (.fileUnreadable "b" .notText) := by decide +kernel
      cases (renders_build_iff.mp renders).symm.trans unreadable
    · exact failed
  · obtain ⟨_, _, _, -, granted, -⟩ | ⟨failed, -⟩ :=
      runRefusing_writes_whole_or_nothing .flat workspace (fun _ => some .isDirectory)
        ⟨.parse "cn=x" (some "a") true, ⟨0⟩⟩ rfl
    · cases granted
    · exact failed

end Workspace

end DirectoryName.CommandLine

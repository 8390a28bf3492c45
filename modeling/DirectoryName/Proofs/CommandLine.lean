import DirectoryName.Proofs.Json.Assembly
import DirectoryName.Proofs.Shape
import DirectoryName.Proofs.Workspace

namespace DirectoryName

/-! Names through files.

One command writes a name into a file as JSON, another writes the name that a file holds.
One after the other, they end as if the name had been written at once: no stage in between
changes anything of what was read. -/

/-- The form of a name nests three deep: its components, their assertions, and those. -/
theorem Dn.toJson_isReadable (name : Dn) : name.toJson.IsReadable 3 := by
  refine .array (List.forall_mem_map.mpr fun rdn _ => ?_)
  refine .array (List.forall_mem_map.mpr fun triple _ => ?_)
  obtain ⟨type, value, flags⟩ := triple
  have fits : flags.toNat < 2 ^ 64 := Nat.lt_trans flags.toNat_lt (by decide)
  refine .array fun part member => ?_
  simp only [List.mem_cons, List.not_mem_nil, or_false] at member
  obtain rfl | rfl | rfl := member
  · exact .scalar trivial
  · exact .scalar trivial
  · exact .scalar fits

namespace CommandLine

/-- What was parsed is built as the name itself would be. -/
theorem built_parsed {text : String} {reading : NameFlags} {name : Dn}
    (read : Dn.parseText text reading = .ok name) (pretty : Bool) (writing : NameFlags) :
    ∃ json, parsed text reading pretty = .ok json ∧
      built json writing = (name.build writing).mapError .notBuilt := by
  have same : Dn.ofJson name.toJson = .ok name := by
    rw [Dn.ofJson_toJson, Dn.visible_eq_self (Dn.parse_isPublic read)]
  have found : Json.read? Json.maxDepth
      (if pretty then name.toJson.pretty else name.toJson.compact) = some name.toJson := by
    split
    · exact Json.read?_pretty name.toJson_isReadable (by decide)
    · exact Json.read?_compact name.toJson_isReadable (by decide)
  refine ⟨_, by rw [parsed, read], ?_⟩
  simp only [built, found, Dn.buildJson, same]

namespace Workspace

variable {paths : Paths} {workspace : Workspace}

theorem run_parse {text path name json : String} {flags : NameFlags} {pretty : Bool}
    (done : parsed text flags pretty = .ok json)
    (leads : workspace.resolve paths true path = .ok name) :
    workspace.run paths ⟨.parse text (some path) pretty, flags⟩ =
      (.ok (), workspace.put name (octetsOf json)) := by
  rw [run_eq_runRefusing, runRefusing_parse, done, delivered_ok rfl leads]

section Build

variable {input text : String} {flags : NameFlags} (file : input ≠ "-")
  (stored : workspace.read paths input = .ok (octetsOf text))
include file stored

theorem builtFrom_of_read :
    workspace.builtFrom paths (fun _ => none) input flags = built text flags := by
  have found : workspace.source paths input = .ok (octetsOf text) := by
    rw [source, if_neg file, stored]
  rw [builtFrom, textOf?_supplied found]

theorem run_build_ok {result output name : String} (done : built text flags = .ok result)
    (leads : workspace.resolve paths true output = .ok name) :
    workspace.run paths ⟨.build input (some output), flags⟩ =
      (.ok (), workspace.put name (octetsOf result)) := by
  rw [run_eq_runRefusing, runRefusing_build, builtFrom_of_read file stored, done,
    delivered_ok rfl leads]

/-- Nothing is written before the name is. -/
theorem run_build_error {failure : Failure} (failed : built text flags = .error failure)
    (output? : Option String) :
    workspace.run paths ⟨.build input output?, flags⟩ = (.error failure, workspace) := by
  rw [run_eq_runRefusing, runRefusing_build, builtFrom_of_read file stored, failed, delivered]

end Build

/-- A name that is parsed into a file and built from that file ends as it does when it is
built at once, in every notation and however the file is laid out: with the same text in the
output, or with the same error and everything left as it was. -/
theorem run_build_after_parse (paths : Paths) (workspace : Workspace)
    {text file input stored : String} {reading : NameFlags} {name : Dn}
    (read : Dn.parseText text reading = .ok name)
    (writes : workspace.resolve paths true file = .ok stored) (fromFile : input ≠ "-")
    (reads : workspace.resolve paths false input = .ok stored) (pretty : Bool) (writing : NameFlags) :
    ∃ parsed, workspace.run paths ⟨.parse text (some file) pretty, reading⟩ = (.ok (), parsed) ∧
      (∀ result output target, name.build writing = .ok result →
        workspace.resolve paths true output = .ok target →
        ∃ built, parsed.run paths ⟨.build input (some output), writing⟩ = (.ok (), built) ∧
          built.content? target = some (octetsOf result) ∧
          ∀ other, other ≠ target → built.content? other = parsed.content? other) ∧
      ∀ error output?, name.build writing = .error error →
        parsed.run paths ⟨.build input output?, writing⟩ = (.error (.notBuilt error), parsed) ∧
          (Failure.notBuilt error).message = "Failed to build DN" ∧
          (Failure.notBuilt error).cause? = some error.message := by
  obtain ⟨json, done, same⟩ := built_parsed read pretty writing
  have content := read_put reads (octetsOf json)
  refine ⟨_, run_parse done writes, fun result output target success leads => ?_,
    fun error output? failure => ?_⟩
  · rw [success] at same
    exact ⟨_, run_build_ok fromFile content same (resolve_eq_ok leads _ true),
      content?_put _ target _, fun other differs => content?_put_of_ne _ differs _⟩
  · rw [failure] at same
    exact ⟨run_build_error fromFile content same output?, rfl, rfl⟩

/-- Two paths lead to the file; the name has no domain, so one notation cannot show it. Where
every path leads to a file of its own, files may be anywhere. -/
theorem run_build_after_parse_control :
    (∃ parsed built : Workspace,
      run .flat ⟨[], [], ""⟩ ⟨.parse "cn=\\00\\22é" (some "./a.json") true, ⟨0⟩⟩ =
        (.ok (), parsed) ∧
      parsed.run .flat ⟨.build "a.json" (some "out"), ⟨0x40⟩⟩ = (.ok (), built) ∧
      built.content? "out" = some (octetsOf "\\00\\\"\\c3\\a9") ∧
      parsed.run .flat ⟨.build "a.json" (some "out"), ⟨0x50⟩⟩ =
        (.error (.notBuilt (.badName .domainMissing)), parsed)) ∧
    ∃ parsed built : Workspace,
      run .apart ⟨[], [], ""⟩ ⟨.parse "cn=\\00\\22é" (some "/tmp/a.json") true, ⟨0⟩⟩ =
        (.ok (), parsed) ∧
      parsed.run .apart ⟨.build "/tmp/a.json" (some "../out"), ⟨0x40⟩⟩ = (.ok (), built) ∧
      built.content? "../out" = some (octetsOf "\\00\\\"\\c3\\a9") := by
  have read : Dn.parseText "cn=\\00\\22é" ⟨0⟩ =
      .ok ⟨[⟨⟨"cn", "\x00\"é", .nonprintable⟩, []⟩]⟩ := by decide +kernel
  have shown : Dn.build ⟨[⟨⟨"cn", "\x00\"é", .nonprintable⟩, []⟩]⟩ ⟨0x40⟩ =
      .ok "\\00\\\"\\c3\\a9" := by decide +kernel
  have writes : resolve .flat ⟨[], [], ""⟩ true "./a.json" = .ok "a.json" := by decide +kernel
  have reads : resolve .flat ⟨[], [], ""⟩ false "a.json" = .ok "a.json" := by decide +kernel
  have delivers : resolve .flat ⟨[], [], ""⟩ true "out" = .ok "out" := by decide +kernel
  obtain ⟨parsed, first, success, -⟩ :=
    run_build_after_parse .flat ⟨[], [], ""⟩ read writes (by decide) reads true ⟨0x40⟩
  obtain ⟨again, second, -, failure⟩ :=
    run_build_after_parse .flat ⟨[], [], ""⟩ read writes (by decide) reads true ⟨0x50⟩
  obtain rfl : parsed = again := (Prod.mk.inj (first.symm.trans second)).2
  obtain ⟨built, done, content, -⟩ := success _ "out" "out" shown delivers
  have anywhere : resolve .apart ⟨[], [], ""⟩ true "/tmp/a.json" = .ok "/tmp/a.json" := rfl
  obtain ⟨elsewhere, third, outside, -⟩ :=
    run_build_after_parse .apart ⟨[], [], ""⟩ read anywhere (by decide)
      (resolve_eq_ok anywhere _ false) true ⟨0x40⟩
  obtain ⟨moved, delivered, whole, -⟩ := outside _ "../out" "../out" shown rfl
  exact ⟨⟨parsed, built, first, done, content, (failure _ (some "out") (by decide +kernel)).1⟩,
    elsewhere, moved, third, delivered, whole⟩

end Workspace

end CommandLine

end DirectoryName

import DirectoryName.Json.Assembly
import DirectoryName.Proofs.Json.Token

namespace DirectoryName.Json

/-! Values through JSON text.

A value whose numbers are naturals of 64 bits, and which does not nest deeper than a
reader follows, is read back from its text, whether that was laid out over lines or not. -/

/-- A value that its text is read back as: its scalars are, and no more than `depth` of
its containers are open at once. -/
inductive IsReadable : Nat → Json → Prop
  | scalar {depth : Nat} {value : Scalar} (readable : value.IsReadable) :
      IsReadable depth (.scalar value)
  | array {depth : Nat} {items : List Json} (readable : ∀ item ∈ items, IsReadable depth item) :
      IsReadable (depth + 1) (.array items)
  | object {depth : Nat} {members : List (String × Json)}
      (readable : ∀ member ∈ members, IsReadable depth member.2) :
      IsReadable (depth + 1) (.object members)

section Separation

theorem itemTokens_separate {items : List Json}
    (separate : ∀ item ∈ items, Separate (tokens item)) : Separate (itemTokens items) := by
  induction items with
  | nil => exact .nil
  | cons first rest ih =>
      rw [List.forall_mem_cons] at separate
      cases rest with
      | nil => exact separate.1
      | cons next rest => exact separate.1.append rfl (ih separate.2)

theorem memberTokens_separate {members : List (String × Json)}
    (separate : ∀ member ∈ members, Separate (tokens member.2)) :
    Separate (memberTokens members) := by
  have named (name : String) {behind : List Token} (separate : Separate behind) :
      Separate (.scalar (.string name) :: .colon :: behind) := by
    refine .scalar trivial (fun next first => ?_) (.mark rfl separate)
    cases first
    rfl
  induction members with
  | nil => exact .nil
  | cons first rest ih =>
      rw [List.forall_mem_cons] at separate
      cases rest with
      | nil => exact named first.1 separate.1
      | cons next rest => exact named first.1 (separate.1.append rfl (ih separate.2))

theorem IsReadable.separate {depth : Nat} {value : Json} (readable : value.IsReadable depth) :
    Separate (tokens value) := by
  induction readable with
  | scalar readable => exact .scalar readable (fun _ first => by cases first) .nil
  | array _ ih => exact .mark rfl ((itemTokens_separate ih).append rfl .nil)
  | object _ ih => exact .mark rfl ((memberTokens_separate ih).append rfl .nil)

end Separation

section Assembly

variable {depth : Nat} {frames : List Frame}

theorem assembleFrom_cons {progress next : Progress} {token : Token}
    (stepped : step depth progress token = some next) (rest : List Token) :
    assembleFrom depth progress (token :: rest) = assembleFrom depth next rest := by
  rw [assembleFrom, stepped]

theorem tokens_begins (value : Json) :
    ∃ token rest, tokens value = token :: rest ∧ token ≠ .closeArray := by
  cases value with
  | scalar value => exact ⟨_, _, rfl, nofun⟩
  | array items => exact ⟨_, _, rfl, nofun⟩
  | object members => exact ⟨_, _, rfl, nofun⟩

theorem itemTokens_begins {items : List Json} (some : items ≠ []) :
    ∃ token rest, itemTokens items = token :: rest ∧ token ≠ .closeArray := by
  cases items with
  | nil => contradiction
  | cons first others =>
      obtain ⟨token, rest, begins, other⟩ := tokens_begins first
      cases others with
      | nil => exact ⟨token, rest, begins, other⟩
      | cons next others =>
          refine ⟨token, rest ++ .comma :: itemTokens (next :: others), ?_, other⟩
          rw [itemTokens, begins, List.cons_append]

/-- An array just opened takes a value as any array does. -/
theorem assembleFrom_inArray {items : List Json} (some : items ≠ []) (rest : List Token) :
    assembleFrom depth (.inArray frames) (itemTokens items ++ rest) =
      assembleFrom depth (.wanting (.array [] :: frames)) (itemTokens items ++ rest) := by
  obtain ⟨token, others, begins, other⟩ := itemTokens_begins some
  have stepped : step depth (.inArray frames) token =
      step depth (.wanting (.array [] :: frames)) token := by
    cases token with
    | closeArray => contradiction
    | _ => rfl
  rw [begins, List.cons_append, assembleFrom, assembleFrom, stepped]

/-- The value whose tokens are `tokens value`, wherever it is due. -/
def Assembles (depth : Nat) (frames : List Frame) (value : Json) : Prop :=
  ∀ rest, assembleFrom depth (.wanting frames) (tokens value ++ rest) =
    assembleFrom depth (.holding value frames) rest

theorem assembleFrom_items {items : List Json} (some : items ≠ [])
    (assembles : ∀ item ∈ items, ∀ done, Assembles depth (.array done :: frames) item)
    (done : List Json) (rest : List Token) :
    assembleFrom depth (.wanting (.array done :: frames)) (itemTokens items ++ .closeArray :: rest) =
      assembleFrom depth (.holding (.array (done.reverse ++ items)) frames) rest := by
  induction items generalizing done with
  | nil => contradiction
  | cons first others ih =>
      rw [List.forall_mem_cons] at assembles
      cases others with
      | nil =>
          rw [itemTokens, assembles.1, assembleFrom_cons rfl, List.reverse_cons]
      | cons next others =>
          have further := ih (List.cons_ne_nil _ _) assembles.2 (first :: done)
          rw [List.reverse_cons, List.append_assoc] at further
          rw [itemTokens, List.append_assoc, assembles.1, List.cons_append, assembleFrom_cons rfl]
          exact further

theorem assembleFrom_members {members : List (String × Json)} (some : members ≠ [])
    (assembles : ∀ member ∈ members, ∀ done name,
      Assembles depth (.member done name :: frames) member.2)
    (done : List (String × Json)) (rest : List Token) :
    assembleFrom depth (.wantingName done frames) (memberTokens members ++ .closeObject :: rest) =
      assembleFrom depth (.holding (.object (done.reverse ++ members)) frames) rest := by
  induction members generalizing done with
  | nil => contradiction
  | cons first others ih =>
      obtain ⟨name, value⟩ := first
      rw [List.forall_mem_cons] at assembles
      cases others with
      | nil =>
          rw [memberTokens, List.cons_append, assembleFrom_cons rfl, List.cons_append,
            assembleFrom_cons rfl, assembles.1, assembleFrom_cons rfl, List.reverse_cons]
      | cons next others =>
          have further := ih (List.cons_ne_nil _ _) assembles.2 ((name, value) :: done)
          rw [List.reverse_cons, List.append_assoc] at further
          rw [memberTokens, List.cons_append, assembleFrom_cons rfl, List.cons_append,
            assembleFrom_cons rfl, List.append_assoc, assembles.1, List.cons_append,
            assembleFrom_cons rfl]
          exact further

theorem IsReadable.assembles {room : Nat} {value : Json} (readable : value.IsReadable room)
    (fits : frames.length + room ≤ depth) : Assembles depth frames value := by
  induction readable generalizing frames with
  | scalar readable => exact fun rest => assembleFrom_cons rfl rest
  | @array room items _ ih =>
      intro rest
      have opened : step depth (.wanting frames) .openArray = some (.inArray frames) :=
        if_pos (by omega)
      have inner (done : List Json) : (Frame.array done :: frames).length + room ≤ depth := by
        rw [List.length_cons]
        omega
      have assembled (some : items ≠ []) := assembleFrom_items some
        (fun item member done => ih item member (inner done)) [] rest
      rw [tokens, List.cons_append, assembleFrom_cons opened, List.append_assoc]
      cases items with
      | nil => exact assembleFrom_cons rfl rest
      | cons first others =>
          have some := List.cons_ne_nil first others
          exact (assembleFrom_inArray some _).trans (assembled some)
  | @object room members _ ih =>
      intro rest
      have opened : step depth (.wanting frames) .openObject = some (.inObject frames) :=
        if_pos (by omega)
      have inner (done : List (String × Json)) (name : String) :
          (Frame.member done name :: frames).length + room ≤ depth := by
        rw [List.length_cons]
        omega
      have assembled (some : members ≠ []) := assembleFrom_members some
        (fun member inside done name => ih member inside (inner done name)) [] rest
      rw [tokens, List.cons_append, assembleFrom_cons opened, List.append_assoc]
      cases members with
      | nil => exact assembleFrom_cons rfl rest
      | cons first others =>
          -- The first name is taken alike in an object just opened and behind a comma.
          refine Eq.trans ?_ (assembled (List.cons_ne_nil _ _))
          cases others with
          | nil => rfl
          | cons next others => rfl

end Assembly

section Text

variable {depth room : Nat} {value : Json}

theorem assemble_tokens (readable : value.IsReadable room) (fits : room ≤ depth) :
    assemble depth (tokens value) = some value := by
  have assembled := @IsReadable.assembles depth [] room value readable (by simpa using fits) []
  rw [List.append_nil] at assembled
  exact assembled

theorem read?_compact (readable : value.IsReadable room) (fits : room ≤ depth) :
    read? depth value.compact = some value := by
  rw [read?, compact, String.toList_ofList, (spells_flatMap readable.separate).readTokens,
    Option.bind_some, assemble_tokens readable fits]

theorem read?_pretty (readable : value.IsReadable room) (fits : room ≤ depth) :
    read? depth value.pretty = some value := by
  rw [read?, pretty, String.toList_ofList, (spells_layout readable.separate 0).readTokens,
    Option.bind_some, assemble_tokens readable fits]

end Text

end DirectoryName.Json

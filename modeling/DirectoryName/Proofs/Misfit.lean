import DirectoryName.Proofs.Shape

namespace DirectoryName

/-! The first misfit of a loosely typed name.

What has not the shape of a name is refused for the first thing out of place, where all before
it fits, and whatever comes later plays no part. -/

namespace Shape

/-- The first thing out of place where an assertion is expected. -/
inductive AvaMisfit (rdn ava : Nat) : Json → Misfit → Prop where
  | kind {value : Json} (noArray : ∀ items, value ≠ .array items) :
      AvaMisfit rdn ava value (.notTriple rdn ava value.kind)
  | length {items : List Json} (short : items.length < 3) :
      AvaMisfit rdn ava (.array items) (.shortTriple rdn ava items.length)
  | type {type text flags : Json} {extra : List Json} (noText : ∀ word, type ≠ .string word) :
      AvaMisfit rdn ava (.array (type :: text :: flags :: extra))
        (.notText rdn ava 0 type.kind)
  | value {type : String} {text flags : Json} {extra : List Json}
      (noText : ∀ word, text ≠ .string word) :
      AvaMisfit rdn ava (.array (.string type :: text :: flags :: extra))
        (.notText rdn ava 1 text.kind)
  | flags {type text : String} {flags : Json} {extra : List Json}
      (noFlags : ∀ bits < 2 ^ 32, flags ≠ .natural bits) :
      AvaMisfit rdn ava (.array (.string type :: .string text :: flags :: extra))
        (.notFlags rdn ava flags.kind)

inductive RdnMisfit (rdn : Nat) : Json → Misfit → Prop where
  | kind {value : Json} (noArray : ∀ items, value ≠ .array items) :
      RdnMisfit rdn value (.notRdn rdn value.kind)
  | empty : RdnMisfit rdn (.array []) (.emptyRdn rdn)
  | ava {before after : List Json} {item : Json} {misfit : Misfit}
      (fits : ∀ good ∈ before, ∃ ava, IsAva good ava)
      (bad : AvaMisfit rdn before.length item misfit) :
      RdnMisfit rdn (.array (before ++ item :: after)) misfit

inductive NameMisfit : Json → Misfit → Prop where
  | kind {value : Json} (noArray : ∀ items, value ≠ .array items) :
      NameMisfit value (.notRdns value.kind)
  | rdn {before after : List Json} {item : Json} {misfit : Misfit}
      (fits : ∀ good ∈ before, ∃ rdn, IsRdn good rdn)
      (bad : RdnMisfit before.length item misfit) :
      NameMisfit (.array (before ++ item :: after)) misfit

theorem scalar_or_object {value : Json} (noArray : ∀ items, value ≠ .array items) :
    (∃ scalar, value = .scalar scalar) ∨ ∃ members, value = .object members := by
  cases value with
  | scalar scalar => exact .inl ⟨scalar, rfl⟩
  | array items => exact absurd rfl (noArray items)
  | object members => exact .inr ⟨members, rfl⟩

theorem readText_eq_error_iff {rdn ava field : Nat} {value : Json} {misfit : Misfit} :
    readText rdn ava field value = .error misfit ↔
      (∀ text, value ≠ .string text) ∧ misfit = .notText rdn ava field value.kind := by
  unfold readText Json.string
  split <;> simp_all [eq_comm]

theorem readFlags_eq_error_iff {rdn ava : Nat} {value : Json} {misfit : Misfit} :
    readFlags rdn ava value = .error misfit ↔
      (∀ bits < 2 ^ 32, value ≠ .natural bits) ∧ misfit = .notFlags rdn ava value.kind := by
  cases read : readFlags rdn ava value with
  | ok word =>
      obtain ⟨bits, below, rfl, rfl⟩ := readFlags_eq_ok_iff.mp read
      simp only [reduceCtorEq, false_iff]
      exact fun large => large.1 bits below rfl
  | error found =>
      have large : ∀ bits < 2 ^ 32, value ≠ .natural bits := by
        rintro bits below rfl
        rw [readFlags_eq_ok_iff.mpr ⟨bits, below, rfl, rfl⟩] at read
        cases read
      have cause : found = .notFlags rdn ava value.kind := by
        unfold readFlags at read
        split at read
        · split at read
          · cases read
          · cases read
            rfl
        · cases read
          rfl
      rw [cause, Except.error.injEq]
      exact ⟨fun same => ⟨large, same.symm⟩, fun other => other.2.symm⟩

section

variable {α : Type} {read : Nat → Json → Except Misfit α} {fits : Json → α → Prop}
  {fails : Nat → Json → Misfit → Prop} {index : Nat} {items : List Json}

/-- The items are read in order, up to the first that fails. -/
theorem readEach_eq_error_iff
    (reads : ∀ index item value, read index item = .ok value ↔ fits item value)
    (misses : ∀ index item misfit, read index item = .error misfit ↔ fails index item misfit)
    {misfit : Misfit} :
    readEach read index items = .error misfit ↔
      ∃ before item after, items = before ++ item :: after ∧
        (∀ good ∈ before, ∃ value, fits good value) ∧
          fails (index + before.length) item misfit := by
  induction items generalizing index with
  | nil => simp [readEach]
  | cons item items ih =>
      have shifted (before : List Json) :
          index + 1 + before.length = index + (before.length + 1) := by omega
      rw [readEach_cons, Reading.bind_eq_error_iff, misses]
      simp only [Reading.bind_eq_error_iff, reads, ih]
      constructor
      · rintro (bad | ⟨value, fit, ⟨before, later, after, rfl, good, bad⟩ | ⟨_, _, done⟩⟩)
        · exact ⟨[], item, items, rfl, by simp, bad⟩
        · rw [shifted] at bad
          exact ⟨item :: before, later, after, rfl, List.forall_mem_cons.mpr ⟨⟨value, fit⟩, good⟩, bad⟩
        · cases done
      · rintro ⟨before, later, after, same, good, bad⟩
        cases before with
        | nil =>
            cases same
            exact .inl bad
        | cons _ before =>
            cases same
            rw [List.forall_mem_cons] at good
            obtain ⟨⟨value, fit⟩, good⟩ := good
            rw [List.length_cons, ← shifted] at bad
            exact .inr ⟨value, fit, .inl ⟨before, later, after, rfl, good, bad⟩⟩

end

variable {rdn index : Nat} {value : Json} {misfit : Misfit}

/-- Steps one after the other fail where the first of them does, or a later one after it. -/
theorem readAva_eq_error_iff :
    readAva rdn index value = .error misfit ↔ AvaMisfit rdn index value misfit := by
  constructor
  · intro failed
    unfold readAva at failed
    split at failed
    · next type text flags extra =>
        rw [Reading.bind_eq_error_iff, readText_eq_error_iff] at failed
        rcases failed with ⟨noText, rfl⟩ | ⟨type, typed, failed⟩
        · exact .type noText
        rw [readText_eq_ok_iff] at typed
        rw [Reading.bind_eq_error_iff, readText_eq_error_iff] at failed
        subst typed
        rcases failed with ⟨noText, rfl⟩ | ⟨text, valued, failed⟩
        · exact .value noText
        rw [readText_eq_ok_iff] at valued
        rw [Reading.bind_eq_error_iff, readFlags_eq_error_iff] at failed
        subst valued
        rcases failed with ⟨noFlags, rfl⟩ | ⟨_, _, failed⟩
        · exact .flags noFlags
        · cases failed
    · next items noTriple =>
        cases failed
        refine .length ?_
        match items with
        | [] => exact Nat.zero_lt_succ 2
        | [_] => exact Nat.one_lt_succ_succ 1
        | [_, _] => exact Nat.lt_succ_self 2
        | type :: text :: flags :: extra => exact absurd rfl (noTriple type text flags extra)
    · next noTriple noArray =>
        cases failed
        exact .kind noArray
  · intro misfits
    cases misfits with
    | kind noArray =>
        rcases scalar_or_object noArray with ⟨_, rfl⟩ | ⟨_, rfl⟩
        · rfl
        · rfl
    | @length items short =>
        match items, short with
        | [], _ | [_], _ | [_, _], _ => rfl
        | _ :: _ :: _ :: _, short =>
            simp only [List.length_cons] at short
            omega
    | type noText =>
        rw [readAva_triple, Reading.bind_eq_error_iff, readText_eq_error_iff]
        exact .inl ⟨noText, rfl⟩
    | value noText =>
        rw [readAva_triple, Reading.bind_eq_error_iff]
        refine .inr ⟨_, readText_eq_ok_iff.mpr rfl, ?_⟩
        rw [Reading.bind_eq_error_iff, readText_eq_error_iff]
        exact .inl ⟨noText, rfl⟩
    | flags noFlags =>
        rw [readAva_triple, Reading.bind_eq_error_iff]
        refine .inr ⟨_, readText_eq_ok_iff.mpr rfl, ?_⟩
        rw [Reading.bind_eq_error_iff]
        refine .inr ⟨_, readText_eq_ok_iff.mpr rfl, ?_⟩
        rw [Reading.bind_eq_error_iff, readFlags_eq_error_iff]
        exact .inl ⟨noFlags, rfl⟩

theorem readRdn_eq_error_iff {rdnIndex : Nat} :
    readRdn rdnIndex value = .error misfit ↔ RdnMisfit rdnIndex value misfit := by
  have all (first : Json) (others : List Json) :
      readRdn rdnIndex (.array (first :: others)) = .error misfit ↔
        ∃ before item after, first :: others = before ++ item :: after ∧
          (∀ good ∈ before, ∃ ava, IsAva good ava) ∧
            AvaMisfit rdnIndex before.length item misfit := by
    have each := @readEach_eq_error_iff _ (readAva rdnIndex) IsAva (AvaMisfit rdnIndex) 0
      (first :: others) (fun _ _ _ => readAva_eq_ok_iff) (fun _ _ _ => readAva_eq_error_iff) misfit
    simpa only [← map_avas_readRdn, Reading.map_eq_error_iff, Nat.zero_add] using each
  constructor
  · intro failed
    match value with
    | .scalar _ | .object _ =>
        cases failed
        exact .kind (by simp)
    | .array [] =>
        cases failed
        exact .empty
    | .array (first :: others) =>
        obtain ⟨before, item, after, same, good, bad⟩ := (all first others).mp failed
        rw [same]
        exact .ava good bad
  · intro misfits
    cases misfits with
    | kind noArray =>
        rcases scalar_or_object noArray with ⟨_, rfl⟩ | ⟨_, rfl⟩
        · rfl
        · rfl
    | empty => rfl
    | @ava before after item _ good bad =>
        obtain ⟨first, others, same⟩ :=
          List.exists_cons_of_ne_nil (@List.append_ne_nil_of_right_ne_nil _ (item :: after) before
            (List.cons_ne_nil item after))
        rw [same, all]
        exact ⟨before, item, after, same.symm, good, bad⟩

theorem readName_eq_error_iff : readName value = .error misfit ↔ NameMisfit value misfit := by
  have all (items : List Json) :
      readName (.array items) = .error misfit ↔
        ∃ before item after, items = before ++ item :: after ∧
          (∀ good ∈ before, ∃ rdn, IsRdn good rdn) ∧ RdnMisfit before.length item misfit := by
    have each := @readEach_eq_error_iff _ readRdn IsRdn RdnMisfit 0 items
      (fun _ _ _ => readRdn_eq_ok_iff) (fun _ _ _ => readRdn_eq_error_iff) misfit
    simpa only [readName, Reading.map_eq_error_iff, Nat.zero_add] using each
  constructor
  · intro failed
    cases value with
    | scalar _ | object _ =>
        cases failed
        exact .kind (by simp)
    | array items =>
        obtain ⟨before, item, after, rfl, good, bad⟩ := (all items).mp failed
        exact .rdn good bad
  · intro misfits
    cases misfits with
    | kind noArray =>
        rcases scalar_or_object noArray with ⟨_, rfl⟩ | ⟨_, rfl⟩
        · rfl
        · rfl
    | @rdn before after item _ good bad =>
        rw [all]
        exact ⟨before, item, after, rfl, good, bad⟩

/-- Two arrays with the same items in front of an index, and related items at it. -/
def AgreeAt (index : Nat) (related : Json → Json → Prop) (value other : Json) : Prop :=
  ∃ before item replacement after rest,
    value = .array (before ++ item :: after) ∧ other = .array (before ++ replacement :: rest) ∧
      before.length = index ∧ related item replacement

theorem AgreeAt.of_append {before after : List Json} {item other : Json}
    {related : Json → Json → Prop}
    (agree : AgreeAt before.length related (.array (before ++ item :: after)) other) :
    ∃ replacement rest, other = .array (before ++ replacement :: rest) ∧
      related item replacement := by
  obtain ⟨_, _, replacement, _, rest, same, rfl, length, relates⟩ := agree
  obtain ⟨rfl, behind⟩ := List.append_inj (Json.array.inj same) length.symm
  cases behind
  exact ⟨replacement, rest, rfl, relates⟩

end Shape

namespace Misfit

/-- The indices that lead to a misfit. -/
def place : Misfit → List Nat
  | .notRdns _ => []
  | .notRdn rdn _ | .emptyRdn rdn => [rdn]
  | .notTriple rdn ava _ | .shortTriple rdn ava _ => [rdn, ava]
  | .notText rdn ava field _ => [rdn, ava, field]
  | .notFlags rdn ava _ => [rdn, ava, 2]

/-- What stands at the place, against what should. -/
def what : Misfit → String
  | .notRdns kind | .notRdn _ kind | .notTriple _ _ kind => kind.label
  | .emptyRdn _ => "empty array"
  | .shortTriple _ _ length => "array of length " ++ toString length
  | .notText _ _ _ kind => kind.label ++ " instead of string"
  | .notFlags _ _ kind => kind.label ++ " instead of integer"

end Misfit

namespace Shape

variable {rdn index : Nat} {value other : Json} {misfit : Misfit}

theorem AvaMisfit.place (misfits : AvaMisfit rdn index value misfit) :
    ∃ field, misfit.place = rdn :: index :: field := by
  cases misfits <;> exact ⟨_, rfl⟩

end Shape

namespace Dn

theorem ofJson_eq_error_iff {value : Json} {misfit : Misfit} :
    ofJson value = .error (.badShape misfit) ↔ Shape.NameMisfit value misfit := by
  rw [← Shape.readName_eq_error_iff, ofJson]
  cases Shape.readName value <;> simp [Except.mapError]

theorem ofJson_eq_error {value : Json} {error : NameError} (failed : ofJson value = .error error) :
    ∃ misfit, error = .badShape misfit := by
  rw [ofJson] at failed
  cases read : Shape.readName value with
  | ok name =>
      rw [read] at failed
      cases failed
  | error misfit =>
      rw [read] at failed
      cases failed
      exact ⟨misfit, rfl⟩

end Dn

end DirectoryName

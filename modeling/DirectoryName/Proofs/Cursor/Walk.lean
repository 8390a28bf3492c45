import DirectoryName.Reading.Basic

namespace DirectoryName.Cursor

/-! Walks over an input with a cursor.

A walk looks at octets by their index and keeps one index of its own, the cursor. Indices, slices,
differences and moves of the cursor are checked, and so is the progress of loops: a walk that
breaks one of these rules halts with a lapse. Positions that are told by what is left of the input
are told by an index here; `place` goes from the one to the other. -/

/-- The ways in which a walk over an input can go wrong. -/
inductive Lapse where
  | indexOutOfRange
  | sliceOutOfRange
  | differenceBelowZero
  | cursorMovedBack
  | cursorPastEnd
  /-- A round of a loop leaves the cursor where it was. -/
  | roundWithoutProgress
deriving DecidableEq, Repr

/-- A walk ends early because it goes wrong, or because it refuses the input. -/
inductive Halt where
  | lapse (lapse : Lapse)
  | refused (error : NameError)
deriving DecidableEq, Repr

abbrev Walk (α : Type) := StateT Nat (Except Halt) α

def lapse (lapse : Lapse) : Walk α :=
  fun _ => .error (.lapse lapse)

def refuse (offset : Nat) (fault : SyntaxFault) : Walk α :=
  fun _ => .error (.refused (.badSyntax offset fault))

/-- Where the cursor is. -/
def here : Walk Nat :=
  fun cursor => .ok (cursor, cursor)

def octetAt (octets : List UInt8) (index : Nat) : Walk UInt8 :=
  match octets[index]? with
  | some octet => pure octet
  | none => lapse .indexOutOfRange

def slice (octets : List UInt8) (start stop : Nat) : Walk (List UInt8) :=
  if start ≤ stop ∧ stop ≤ octets.length then pure ((octets.drop start).take (stop - start))
  else lapse .sliceOutOfRange

def difference (whole part : Nat) : Walk Nat :=
  if part ≤ whole then pure (whole - part) else lapse .differenceBelowZero

/-- How a loop goes on. -/
inductive Round (σ α : Type) where
  | again (state : σ)
  /-- The round was the last one. -/
  | last (result : α)
  /-- No round was entered. -/
  | over (result : α)

section

variable (input : List UInt8)

/-- The octet under the cursor, if the input goes on. -/
def peek : Walk (Option UInt8) :=
  fun cursor => .ok (input[cursor]?, cursor)

/-- Nothing else moves the cursor. -/
def moveTo (target : Nat) : Walk Unit :=
  fun cursor =>
    if target < cursor then .error (.lapse .cursorMovedBack)
    else if input.length < target then .error (.lapse .cursorPastEnd)
    else .ok ((), target)

def advance (count : Nat) : Walk Unit := do
  let cursor ← here
  moveTo input (cursor + count)

/-- Goes round until a round is the last one or none is entered any more. The cursor has to be
further on after a round than before it. -/
def loop (round : σ → Walk (Round σ α)) (state : σ) (cursor : Nat) : Except Halt (α × Nat) :=
  match round state cursor with
  | .error halt => .error halt
  | .ok (.over result, stop) => .ok (result, stop)
  | .ok (.last result, stop) =>
      if cursor < stop then .ok (result, stop) else .error (.lapse .roundWithoutProgress)
  | .ok (.again next, stop) =>
      if _progress : cursor < stop ∧ stop ≤ input.length then loop round next stop
      else .error (.lapse .roundWithoutProgress)
termination_by input.length - cursor
decreasing_by omega

/-- Where a walk ends that has a cursor of its own. -/
def aside (start : Nat) (walk : Walk Unit) : Walk Nat :=
  fun cursor =>
    match walk start with
    | .ok (_, stop) => .ok (stop, cursor)
    | .error halt => .error halt

def passOverRound (keep : UInt8 → Bool) (_ : Unit) : Walk (Round Unit Unit) := do
  match ← peek input with
  | some octet =>
      if keep octet then do
        advance input 1
        return .again ()
      else return .over ()
  | none => return .over ()

/-- Goes on to the first octet that is not to be kept. -/
def passOver (keep : UInt8 → Bool) : Walk Unit :=
  loop input (passOverRound input keep) ()

/-- The index at which `rest` starts, which the input ends with. -/
def place (rest : List UInt8) : Nat :=
  input.length - rest.length

/-- What a reader returns, with indices for what is left. -/
def located (read : Except Stuck (α × List UInt8)) : Except Halt (α × Nat) :=
  match read with
  | .ok (result, rest) => .ok (result, place input rest)
  | .error stuck => .error (.refused (stuck.toError input))

/-- From any place of the input, the walk does what the reader does with what is left there, and
the reader leaves an end of it. -/
structure Tracks (walk : Walk α) (read : List UInt8 → Except Stuck (α × List UInt8)) : Prop where
  walks : ∀ {text}, text <:+ input → walk (place input text) = located input (read text)
  leaves : ∀ {text result rest}, read text = .ok (result, rest) → rest <:+ text

end

theorem bind_ok {walk : Walk α} {next : α → Walk β} {cursor stop : Nat} {result : α}
    (run : walk cursor = .ok (result, stop)) : (walk >>= next) cursor = next result stop := by
  show (walk cursor >>= fun after => next after.1 after.2) = next result stop
  rw [run]
  rfl

theorem bind_error {walk : Walk α} {next : α → Walk β} {cursor : Nat} {halt : Halt}
    (run : walk cursor = .error halt) : (walk >>= next) cursor = .error halt := by
  show (walk cursor >>= fun after => next after.1 after.2) = .error halt
  rw [run]
  rfl

@[simp] theorem pure_run (result : α) (cursor : Nat) :
    (pure result : Walk α) cursor = .ok (result, cursor) := rfl

@[simp] theorem here_bind (next : Nat → Walk α) (cursor : Nat) :
    (here >>= next) cursor = next cursor cursor := rfl

variable {input text rest : List UInt8}

@[simp] theorem peek_bind (next : Option UInt8 → Walk α) (cursor : Nat) :
    (peek input >>= next) cursor = next input[cursor]? cursor := rfl

theorem octetAt_run {octets : List UInt8} {index : Nat} {octet : UInt8}
    (found : octets[index]? = some octet) (cursor : Nat) :
    octetAt octets index cursor = .ok (octet, cursor) := by
  rw [octetAt, found]
  rfl

theorem slice_run {octets : List UInt8} {start stop : Nat} (ordered : start ≤ stop)
    (within : stop ≤ octets.length) (cursor : Nat) :
    slice octets start stop cursor = .ok ((octets.drop start).take (stop - start), cursor) := by
  rw [slice, if_pos ⟨ordered, within⟩]
  rfl

theorem difference_run {whole part : Nat} (covered : part ≤ whole) (cursor : Nat) :
    difference whole part cursor = .ok (whole - part, cursor) := by
  rw [difference, if_pos covered]
  rfl

theorem moveTo_run {target cursor : Nat} (further : cursor ≤ target)
    (within : target ≤ input.length) : moveTo input target cursor = .ok ((), target) := by
  rw [moveTo, if_neg (by omega), if_neg (by omega)]

theorem advance_run {count cursor : Nat} (within : cursor + count ≤ input.length) :
    advance input count cursor = .ok ((), cursor + count) :=
  moveTo_run (Nat.le_add_right _ _) within

section Loop

variable {round : σ → Walk (Round σ α)} {state next : σ} {cursor stop : Nat}

theorem loop_over {result : α} (run : round state cursor = .ok (.over result, stop)) :
    loop input round state cursor = .ok (result, stop) := by
  rw [loop, run]

theorem loop_last {result : α} (run : round state cursor = .ok (.last result, stop))
    (progress : cursor < stop) : loop input round state cursor = .ok (result, stop) := by
  rw [loop, run]
  exact if_pos progress

theorem loop_again (run : round state cursor = .ok (.again next, stop)) (progress : cursor < stop)
    (within : stop ≤ input.length) :
    loop input round state cursor = loop input round next stop := by
  rw [loop, run]
  exact dif_pos ⟨progress, within⟩

theorem loop_halt {halt : Halt} (run : round state cursor = .error halt) :
    loop input round state cursor = .error halt := by
  rw [loop, run]

/-- A loop that does not move halts. -/
example : loop [0x20] (fun _ : Unit => (return .again () : Walk (Round Unit Unit))) () 0 =
    .error (.lapse .roundWithoutProgress) := by
  rw [loop]
  rfl

end Loop

/-- A step that does what a reader does, and what comes after it. -/
theorem bind_located {walk : Walk α} {cursor : Nat} {read : Except Stuck (α × List UInt8)}
    (next : α → Walk β) : walk cursor = located input read →
      (walk >>= next) cursor =
        match read with
        | .ok (result, rest) => next result (place input rest)
        | .error stuck => .error (.refused (stuck.toError input)) := by
  intro run
  cases read with
  | ok found => exact bind_ok run
  | error stuck => exact bind_error run

theorem Tracks.bind_run {walk : Walk α} {read : List UInt8 → Except Stuck (α × List UInt8)}
    (tracks : Tracks input walk read) (left : text <:+ input) (next : α → Walk β) :
    (walk >>= next) (place input text) =
      match read text with
      | .ok (result, rest) => next result (place input rest)
      | .error stuck => .error (.refused (stuck.toError input)) :=
  bind_located next (tracks.walks left)

theorem Tracks.pure (input : List UInt8) (result : α) :
    Tracks input (pure result) fun text => .ok (result, text) where
  walks _ := rfl
  leaves read := by
    cases read
    exact List.suffix_refl _

theorem Tracks.bind {walk : Walk α} {read : List UInt8 → Except Stuck (α × List UInt8)}
    {next : α → Walk β} {continued : α × List UInt8 → Except Stuck (β × List UInt8)}
    (tracks : Tracks input walk read)
    (continues : ∀ result, Tracks input (next result) fun rest => continued (result, rest)) :
    Tracks input (walk >>= next) fun text => read text >>= continued where
  walks {text} left := by
    rw [tracks.bind_run left]
    cases first : read text with
    | error stuck => rfl
    | ok found => exact (continues _).walks ((tracks.leaves first).trans left)
  leaves {text _ _} reads := by
    cases first : read text with
    | error stuck =>
        rw [first] at reads
        cases reads
    | ok found =>
        rw [first] at reads
        exact ((continues _).leaves reads).trans (tracks.leaves first)

/-- A step that only passes something over. -/
theorem Tracks.bind_pass {walk : Walk Unit} {pass : List UInt8 → Except Stuck (List UInt8)}
    {next : Unit → Walk β} {continued : List UInt8 → Except Stuck (β × List UInt8)}
    (tracks : Tracks input walk fun text => (pass text).map ((), ·))
    (continues : Tracks input (next ()) continued) :
    Tracks input (walk >>= next) fun text => pass text >>= continued := by
  have same : (fun text => pass text >>= continued) = fun text =>
      (pass text).map ((), ·) >>= fun (found : Unit × List UInt8) => continued found.2 := by
    funext text
    cases pass text <;> rfl
  rw [same]
  exact tracks.bind fun _ => continues

theorem place_le (input rest : List UInt8) : place input rest ≤ input.length :=
  Nat.sub_le _ _

theorem place_length (used rest : List UInt8) : place (used ++ rest) rest = used.length := by
  rw [place, List.length_append, Nat.add_sub_cancel]

theorem place_nil (input : List UInt8) : place input [] = input.length := rfl

theorem place_self (input : List UInt8) : place input input = 0 :=
  Nat.sub_self _

theorem place_append {used : List UInt8} (left : used ++ rest <:+ input) :
    place input rest = place input (used ++ rest) + used.length := by
  have bound := left.length_le
  simp only [place, List.length_append] at bound ⊢
  omega

theorem place_cons {octet : UInt8} (left : octet :: rest <:+ input) :
    place input rest = place input (octet :: rest) + 1 :=
  @place_append input rest [octet] left

theorem place_lt (left : text <:+ input) (shorter : rest.length < text.length) :
    place input text < place input rest := by
  have bound := left.length_le
  simp only [place]
  omega

theorem place_mono (input : List UInt8) (further : rest <:+ text) :
    place input text ≤ place input rest :=
  Nat.sub_le_sub_left further.length_le _

theorem getElem?_place (left : text <:+ input) (index : Nat) :
    input[place input text + index]? = text[index]? := by
  obtain ⟨used, rfl⟩ := left
  rw [place_length, List.getElem?_append_right (Nat.le_add_right _ _), Nat.add_sub_cancel_left]

theorem getElem?_place_zero (left : text <:+ input) : input[place input text]? = text.head? := by
  rw [List.head?_eq_getElem?, ← getElem?_place left 0, Nat.add_zero]

theorem drop_place (left : text <:+ input) : input.drop (place input text) = text := by
  obtain ⟨used, rfl⟩ := left
  rw [place_length, List.drop_left]

theorem moveTo_place (input : List UInt8) (further : rest <:+ text) :
    moveTo input (place input rest) (place input text) = .ok ((), place input rest) :=
  moveTo_run (place_mono input further) (place_le input rest)

theorem advance_over {used : List UInt8} (left : used ++ rest <:+ input) :
    advance input used.length (place input (used ++ rest)) = .ok ((), place input rest) := by
  rw [place_append left]
  exact advance_run (place_append left ▸ place_le input rest)

theorem advance_one {octet : UInt8} (left : octet :: rest <:+ input) :
    advance input 1 (place input (octet :: rest)) = .ok ((), place input rest) :=
  @advance_over input rest [octet] left

/-- What is left, as a slice. -/
theorem slice_place (left : text <:+ input) (cursor : Nat) :
    slice input (place input text) input.length cursor = .ok (text, cursor) := by
  rw [slice_run (place_le _ _) (Nat.le_refl _), drop_place left, List.take_of_length_le]
  have bound := left.length_le
  simp only [place]
  omega

/-- What was passed over, as a slice. -/
theorem slice_between {used : List UInt8} (left : used ++ rest <:+ input) (cursor : Nat) :
    slice input (place input (used ++ rest)) (place input rest) cursor = .ok (used, cursor) := by
  have bound := left.length_le
  rw [slice_run (place_mono _ (List.suffix_append _ _)) (place_le _ _), drop_place left,
    List.take_left']
  rw [List.length_append] at bound
  simp only [place, List.length_append]
  omega

theorem passOver_run (keep : UInt8 → Bool) (left : text <:+ input) :
    passOver input keep (place input text) = .ok ((), place input (text.dropWhile keep)) := by
  induction text with
  | nil =>
      apply loop_over
      simp [passOverRound, getElem?_place_zero left]
  | cons octet rest ih =>
      by_cases kept : keep octet = true
      · rw [List.dropWhile_cons_of_pos kept, ← ih ((List.suffix_cons _ _).trans left)]
        refine loop_again ?_ (place_lt left (by simp)) (place_le _ _)
        simp only [passOverRound, peek_bind, getElem?_place_zero left, List.head?_cons, kept,
          if_true, bind_ok (advance_one left), pure_run]
      · rw [List.dropWhile_cons_of_neg kept]
        apply loop_over
        simp [passOverRound, getElem?_place_zero left, kept]

theorem passOver_bind (keep : UInt8 → Bool) (left : text <:+ input) (next : Unit → Walk α) :
    (passOver input keep >>= next) (place input text) =
      next () (place input (text.dropWhile keep)) :=
  bind_ok (passOver_run keep left)

end DirectoryName.Cursor

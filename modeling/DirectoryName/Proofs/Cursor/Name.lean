import DirectoryName.Proofs.Cursor.Value
import DirectoryName.Proofs.Reading.Name

namespace DirectoryName

/-! Names, read with a cursor.

Wherever a round of a loop begins, it finds what the reader finds that is given the rest of the
input; a name is read from the first place to the last. -/

namespace Cursor

open Reading

variable {input text : List UInt8} {rules : Rules}

theorem walkEquals_tracks (input : List UInt8) : Tracks input (walkEquals input) fun text =>
    (passEquals text).map ((), ·) where
  walks {text} left := by
    rw [walkEquals, peek_bind, getElem?_place_zero left]
    cases text with
    | nil => rfl
    | cons next rest =>
        by_cases equals : next = Octet.equals
        · rw [if_pos (by simp [equals]), passEquals, if_pos equals]
          exact advance_one left
        · rw [if_neg (by simp [equals]), passEquals, if_neg equals]
          rfl
  leaves {text _ rest} read := by
    cases passed : passEquals text with
    | error stuck => simp [passed, Except.map] at read
    | ok remaining =>
        simp only [passed, Except.map, Except.ok.injEq, Prod.mk.injEq] at read
        rw [passEquals_eq_ok_iff.mp passed, ← read.2]
        exact List.suffix_cons _ _

theorem walkAva_tracks (input : List UInt8) (rules : Rules) :
    Tracks input (walkAva input rules) (readAva rules) := by
  have spaces := skipSpaces_tracks input rules .spaceForbidden
  refine spaces.bind_pass ?_
  refine (walkType_tracks input rules).bind fun type => ?_
  refine spaces.bind_pass ((walkEquals_tracks input).bind_pass (spaces.bind_pass ?_))
  exact (walkValue_tracks input rules).bind fun value => .pure input _

/-! Components. -/

theorem avasRound_over (left : text <:+ input)
    (stops : text.head?.any rules.dialect.joinsAvas = false) (avas : List Ava) :
    avasRound input rules avas (place input text) = .ok (.over avas, place input text) := by
  rw [avasRound, peek_bind, getElem?_place_zero left, if_neg (by simp [stops])]
  rfl

theorem avasRound_joins {next : UInt8} {after : List UInt8} (left : next :: after <:+ input)
    (joins : rules.dialect.joinsAvas next = true) (avas : List Ava) :
    avasRound input rules avas (place input (next :: after)) =
      located input
        ((readAva rules after).map fun read => (.again (avas ++ [read.1]), read.2)) := by
  have behind : after <:+ input := (List.suffix_cons _ _).trans left
  rw [avasRound, peek_bind, getElem?_place_zero left, if_pos (by simpa using joins),
    bind_ok (advance_one left), (walkAva_tracks input rules).bind_run behind]
  cases readAva rules after <;> rfl

/-- Behind a joint the loop goes on as it would from there, with one more assertion. -/
theorem loop_avas_joins {next : UInt8} {after : List UInt8} (left : next :: after <:+ input)
    (joins : rules.dialect.joinsAvas next = true) (avas : List Ava) :
    loop input (avasRound input rules) avas (place input (next :: after)) =
      (walkAva input rules >>= fun ava => loop input (avasRound input rules) (avas ++ [ava]))
        (place input after) := by
  have behind : after <:+ input := (List.suffix_cons _ _).trans left
  have round := avasRound_joins left joins avas
  rw [(walkAva_tracks input rules).bind_run behind]
  cases read : readAva rules after with
  | error stuck =>
      rw [read] at round
      exact loop_halt round
  | ok found =>
      rw [read] at round
      exact loop_again round (place_lt left (Nat.lt_succ_of_lt (readAva_shorter read)))
        (place_le _ _)

/-- The first assertion stands in front of the loop, so it is the loop behind an assertion that the
reader goes round. -/
theorem avas_run (rules : Rules) (left : text <:+ input) (avas : List Ava) :
    (walkAva input rules >>= fun ava => loop input (avasRound input rules) (avas ++ [ava]))
        (place input text) =
      located input
        ((readAvas rules text).map fun read => (avas ++ read.1.avas, read.2)) := by
  fun_induction readAvas rules text generalizing avas with
  | case1 text stuck avaRead =>
      rw [(walkAva_tracks input rules).bind_run left, avaRead]
      rfl
  | case2 text ava avaRead =>
      rw [(walkAva_tracks input rules).bind_run left, avaRead]
      exact loop_over (avasRound_over List.nil_suffix rfl _)
  | case3 text ava next after avaRead joins stuck deeper ih
  | case4 text ava next after avaRead joins rdn rest deeper ih =>
      have behind := ((walkAva_tracks input rules).leaves avaRead).trans left
      have inside : after <:+ input := (List.suffix_cons _ _).trans behind
      rw [(walkAva_tracks input rules).bind_run left, avaRead]
      simp only
      rw [loop_avas_joins behind joins, ih inside, deeper]
      simp [Except.map, located, Rdn.avas]
  | case5 text ava next after avaRead stops =>
      have behind := ((walkAva_tracks input rules).leaves avaRead).trans left
      rw [(walkAva_tracks input rules).bind_run left, avaRead]
      exact loop_over (avasRound_over behind (by simpa using stops) _)

theorem walkRdn_tracks (input : List UInt8) (rules : Rules) :
    Tracks input (walkRdn input rules) (readAvas rules) where
  walks {text} left := by
    have parts : walkRdn input rules =
        (walkAva input rules >>= fun ava => loop input (avasRound input rules) ([] ++ [ava])) >>=
          rdnOf :=
      (bind_assoc _ _ _).symm
    rw [parts, bind_located _ (avas_run rules left [])]
    cases readAvas rules text <;> rfl
  leaves read := by
    obtain ⟨used, rfl, _⟩ := readAvas_sound read
    exact List.suffix_append _ _

/-! Names. -/

theorem rdnsRound_run (rules : Rules) (left : text <:+ input) (rdns : List Rdn) :
    rdnsRound input rules rdns (place input text) =
      match readAvas rules text with
      | .error stuck => located input (.error stuck)
      | .ok (rdn, []) => located input (.ok (.last (rdns ++ [rdn]), []))
      | .ok (rdn, next :: after) =>
          if rules.dialect.separatesRdns next then
            if rules.strictness.noSpaceAfterSeparator && after.head? == some Octet.space then
              located input (.error ⟨.spaceAfterSeparator, after⟩)
            else located input (.ok (.again (rdns ++ [rdn]), after))
          else located input (.error ⟨.octetAfterRdn next, next :: after⟩) := by
  rw [rdnsRound, (walkRdn_tracks input rules).bind_run left]
  cases read : readAvas rules text with
  | error stuck => rfl
  | ok found =>
      obtain ⟨rdn, rest⟩ := found
      have behind := ((walkRdn_tracks input rules).leaves read).trans left
      simp only [peek_bind, getElem?_place_zero behind]
      cases rest with
      | nil => rfl
      | cons next after =>
          have further : after <:+ input := (List.suffix_cons _ _).trans behind
          simp only [List.head?_cons]
          by_cases separates : rules.dialect.separatesRdns next = true
          · rw [if_pos separates, if_pos separates, bind_ok (advance_one behind), peek_bind,
              getElem?_place_zero further]
            by_cases spaced : rules.strictness.noSpaceAfterSeparator = true ∧
                after.head? = some Octet.space
            · rw [if_pos spaced, if_pos (by simp [spaced])]
              rfl
            · rw [if_neg spaced, if_neg (by simpa using spaced)]
              rfl
          · rw [if_neg separates, if_neg separates]
            rfl

theorem rdns_run (rules : Rules) (left : text <:+ input) (rdns : List Rdn) :
    loop input (rdnsRound input rules) rdns (place input text) =
      located input ((readRdns rules text).map fun others => (rdns ++ others, [])) := by
  have round := rdnsRound_run rules left rdns
  fun_induction readRdns rules text generalizing rdns with
  | case1 text stuck rdnRead =>
      rw [rdnRead] at round
      exact loop_halt round
  | case2 text rdn rdnRead =>
      rw [rdnRead] at round
      have used := readAvas_shorter rdnRead
      exact loop_last round (place_lt left used)
  | case3 text rdn next after rdnRead separates spaced =>
      rw [rdnRead] at round
      simp only [if_pos separates, if_pos spaced] at round
      exact loop_halt round
  | case4 text rdn next after rdnRead separates noSpace stuck deeper ih
  | case5 text rdn next after rdnRead separates noSpace others deeper ih =>
      have behind := ((walkRdn_tracks input rules).leaves rdnRead).trans left
      have further : after <:+ input := (List.suffix_cons _ _).trans behind
      have shorter := readAvas_shorter rdnRead
      rw [rdnRead] at round
      simp only [if_pos separates, if_neg noSpace] at round
      rw [loop_again round (place_lt left (Nat.lt_of_succ_lt shorter)) (place_le _ _),
        ih further _ (rdnsRound_run rules further _), deeper]
      simp [Except.map]
  | case6 text rdn next after rdnRead separates =>
      rw [rdnRead] at round
      simp only [if_neg separates] at round
      exact loop_halt round

theorem pathRound_slash (rules : Rules) {after : List UInt8} (left : Octet.slash :: after <:+ input)
    (rdns : List Rdn) :
    pathRound input rules rdns (place input (Octet.slash :: after)) =
      located input
        ((readAvas rules after).map fun read => (.again (rdns ++ [read.1]), read.2)) := by
  have within : place input (Octet.slash :: after) < input.length :=
    Nat.lt_of_lt_of_le (place_lt left (Nat.lt_succ_self _)) (place_le input after)
  have behind : after <:+ input := (List.suffix_cons _ _).trans left
  rw [pathRound, here_bind, if_pos within, peek_bind, getElem?_place_zero left,
    if_pos List.head?_cons, bind_ok (advance_one left), (walkRdn_tracks input rules).bind_run behind]
  cases readAvas rules after <;> rfl

theorem path_run (rules : Rules) (left : text <:+ input) (rdns : List Rdn) :
    loop input (pathRound input rules) rdns (place input text) =
      located input ((readPath rules text).map fun others => (rdns ++ others, [])) := by
  fun_induction readPath rules text generalizing rdns with
  | case1 =>
      apply loop_over
      rw [pathRound, here_bind, if_neg (by simp [place_nil]), List.append_nil]
      rfl
  | case2 after stuck rdnRead =>
      have round := pathRound_slash rules left rdns
      rw [rdnRead] at round
      exact loop_halt round
  | case3 after rdn rest rdnRead stuck deeper ih
  | case4 after rdn rest rdnRead others deeper ih =>
      have round := pathRound_slash rules left rdns
      have behind := ((walkRdn_tracks input rules).leaves rdnRead).trans
        ((List.suffix_cons _ _).trans left)
      rw [rdnRead] at round
      rw [loop_again round (place_lt left (Nat.lt_succ_of_lt (readAvas_shorter rdnRead)))
        (place_le _ _), ih behind, deeper]
      simp [Except.map]
  | case5 next after noSlash =>
      have within : place input (next :: after) < input.length :=
        Nat.lt_of_lt_of_le (place_lt left (Nat.lt_succ_self _)) (place_le input after)
      apply loop_halt
      rw [pathRound, here_bind, if_pos within, peek_bind, getElem?_place_zero left,
        if_neg (by simpa using noSlash)]
      rfl

theorem walkPath_run (input : List UInt8) (rules : Rules) :
    walkPath input rules 0 =
      located input ((readPath rules input).map fun rdns => (⟨rdns.reverse⟩, [])) := by
  have path := path_run rules (List.suffix_refl input) []
  rw [place_self] at path
  rw [walkPath, bind_located _ path]
  cases readPath rules input <;> rfl

theorem walkRdns_run (input : List UInt8) (rules : Rules) :
    walkRdns input rules 0 =
      located input ((readRdns rules input).map fun rdns => (⟨rdns⟩, [])) := by
  have rdns := rdns_run rules (List.suffix_refl input) []
  rw [place_self] at rdns
  rw [walkRdns, bind_located _ rdns]
  cases readRdns rules input <;> rfl

theorem walkName_cases (input : List UInt8) (rules : Rules) :
    isRootText rules input = true ∧ walkName input rules = pure Dn.root ∨
      isRootText rules input = false ∧
        (rules.dialect = .dce ∧ walkName input rules = walkPath input rules ∨
          rules.dialect ≠ .dce ∧ walkName input rules = walkRdns input rules) := by
  unfold walkName isRootText Dialect.padsWithSpaces
  cases rules.dialect with
  | dce => cases input.isEmpty <;> simp
  | lenient | strictV3 =>
      cases input.isEmpty <;> cases rules.strictness.noEdgeSpaces <;>
        cases input.all (· == Octet.space) <;> simp

theorem walkName_run (input : List UInt8) (rules : Rules) :
    (walkName input rules 0).map Prod.fst =
      (readName rules input).mapError fun stuck => .refused (stuck.toError input) := by
  rcases walkName_cases input rules with
    ⟨root, walked⟩ | ⟨content, ⟨dce, walked⟩ | ⟨ldap, walked⟩⟩
  · rw [walked, readName, if_pos root]
    rfl
  · rw [walked, walkPath_run, readName_eq_readPath dce]
    cases readPath rules input <;> rfl
  · rw [walked, walkRdns_run, readName_eq_readRdns ldap (by simp [content])]
    cases readRdns rules input <;> rfl

end Cursor

namespace Dn

/-- Reading with a cursor gives what reading gives. -/
theorem parseWithCursor_eq (input : List UInt8) (flags : NameFlags) :
    parseWithCursor input flags = (parse input flags).mapError .refused := by
  unfold parseWithCursor parse
  cases flags.rules with
  | error fault => rfl
  | ok rules =>
      simp only [Cursor.walkName_run]
      cases Reading.readName rules input <;> rfl

theorem offset_le_of_parse {input : List UInt8} {flags : NameFlags} {offset : Nat}
    {fault : SyntaxFault} (failed : parse input flags = .error (.badSyntax offset fault)) :
    offset ≤ input.length := by
  unfold parse at failed
  split at failed
  · cases failed
  split at failed
  · cases failed
  · cases failed
    exact Cursor.place_le input _

/-- A cursor reads what is read without one, and no lapse ever halts it: it is neither moved back
nor past the end, indices, slices and differences are in range, and every round of a loop moves
it. An offset that is reported lies in the input or at its end. -/
theorem parse_without_lapse (input : List UInt8) (flags : NameFlags) :
    parseWithCursor input flags = (parse input flags).mapError .refused ∧
      (∀ lapse, parseWithCursor input flags ≠ .error (.lapse lapse)) ∧
      ∀ offset fault, parseWithCursor input flags = .error (.refused (.badSyntax offset fault)) →
        offset ≤ input.length := by
  rw [parseWithCursor_eq]
  refine ⟨rfl, ?_, ?_⟩
  · intro lapse halted
    cases read : parse input flags <;> simp [read, Except.mapError] at halted
  · intro offset fault halted
    cases read : parse input flags with
    | ok name => simp [read, Except.mapError] at halted
    | error error =>
        simp only [read, Except.mapError, Except.error.injEq, Cursor.Halt.refused.injEq] at halted
        exact offset_le_of_parse (halted ▸ read)

/-- The first digit of a pair is the last octet, and an offset points back at forbidden spaces. -/
theorem parse_without_lapse_at_end :
    parseWithCursor (octetsOf "cn=\\4") .default =
        .error (.refused (.badSyntax 5 .escapeIncomplete)) ∧
      5 ≤ (octetsOf "cn=\\4").length ∧
      parseWithCursor (octetsOf "cn=a\\   ") ⟨0x1000⟩ =
        .error (.refused (.badSyntax 6 .spaceAfterValue)) ∧
      6 ≤ (octetsOf "cn=a\\   ").length := by
  have digit : parse (octetsOf "cn=\\4") .default = .error (.badSyntax 5 .escapeIncomplete) := by
    decide +kernel
  have spaces : parse (octetsOf "cn=a\\   ") ⟨0x1000⟩ =
      .error (.badSyntax 6 .spaceAfterValue) := by
    decide +kernel
  obtain ⟨digitSame, -, digitBound⟩ := parse_without_lapse (octetsOf "cn=\\4") .default
  obtain ⟨spacesSame, -, spacesBound⟩ := parse_without_lapse (octetsOf "cn=a\\   ") ⟨0x1000⟩
  rw [digit] at digitSame
  rw [spaces] at spacesSame
  exact ⟨digitSame, digitBound _ _ digitSame, spacesSame, spacesBound _ _ spacesSame⟩

end Dn

end DirectoryName

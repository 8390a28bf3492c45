import DirectoryName.Json.Layout
import DirectoryName.Proofs.Json.Number
import DirectoryName.Proofs.Json.Quoted

namespace DirectoryName.Json

/-! Tokens through JSON text.

`Spells` says which texts are made of which tokens, with white space wherever it may
stand; reading such a text gives the tokens. Written one after the other or laid out over
lines, tokens spell themselves, as long as no scalar follows another. -/

/-- Whether the scalar is one that its text is read back as. -/
def Scalar.IsReadable : Scalar → Prop
  | .natural value => value < 2 ^ 64
  | .real _ => False
  | .null | .boolean _ | .string _ => True

def Token.isScalar : Token → Bool
  | .scalar _ => true
  | _ => false

/-- A text and the tokens that it is made of. -/
inductive Spells : List Token → List Char → Prop
  | nil : Spells [] []
  | white {tokens : List Token} {text : List Char} {character : Char}
      (white : isWhite character = true) (rest : Spells tokens text) :
      Spells tokens (character :: text)
  | mark {tokens : List Token} {text : List Char} {token : Token}
      (mark : token.isScalar = false) (rest : Spells tokens text) :
      Spells (token :: tokens) (token.text ++ text)
  | scalar {tokens : List Token} {text : List Char} {value : Scalar}
      (readable : value.IsReadable) (ends : EndsNumber text) (rest : Spells tokens text) :
      Spells (.scalar value :: tokens) (value.text ++ text)

/-- Tokens that stay apart when they are written: their scalars are readable, and none
directly follows another. -/
inductive Separate : List Token → Prop
  | nil : Separate []
  | mark {tokens : List Token} {token : Token} (mark : token.isScalar = false)
      (rest : Separate tokens) : Separate (token :: tokens)
  | scalar {tokens : List Token} {value : Scalar} (readable : value.IsReadable)
      (followed : ∀ next ∈ tokens.head?, next.isScalar = false) (rest : Separate tokens) :
      Separate (.scalar value :: tokens)

theorem endsNumber_nil : EndsNumber [] := by
  intro next rest same
  cases same

theorem endsNumber_cons {next : Char}
    (ends : next.isDigit = false ∧ next ≠ '.' ∧ next ≠ 'e' ∧ next ≠ 'E') (text : List Char) :
    EndsNumber (next :: text) := by
  intro next rest same
  cases same
  exact ends

theorem readToken_digit {first : Char} (digit : first.isDigit = true) (rest : List Char) :
    readToken (first :: rest) =
      (readNumber (first :: rest)).map fun (literal, rest) => (.scalar literal.scalar, rest) := by
  unfold readToken
  split
  case h_1 => contradiction
  case h_12 => next same => rw [same]
  all_goals
    next same =>
      rw [(List.cons.inj same).1] at digit
      exact absurd digit (by decide)

theorem readToken_mark {token : Token} (mark : token.isScalar = false) (rest : List Char) :
    readToken (token.text ++ rest) = some (token, rest) := by
  cases token with
  | scalar value => cases mark
  | _ => rfl

theorem readToken_scalar {value : Scalar} {rest : List Char} (readable : value.IsReadable)
    (ends : EndsNumber rest) :
    readToken (value.text ++ rest) = some (.scalar value, rest) := by
  cases value with
  | null => rfl
  | boolean value => cases value <;> rfl
  | real literal => exact readable.elim
  | natural value =>
      obtain ⟨literal, read, same⟩ := readNumber_digits readable ends
      cases digits : Nat.toDigits 10 value with
      | nil => exact absurd digits Nat.toDigits_ne_nil
      | cons first others =>
          have digit : first.isDigit = true := isDigit_of_mem_digits (digits ▸ List.mem_cons_self)
          rw [digits] at read
          rw [Scalar.text, digits, List.cons_append, readToken_digit digit, ← List.cons_append,
            read, ← same]
          rfl
  | string value =>
      have text : (Scalar.string value).text ++ rest =
          '"' :: (value.toList.flatMap escapedChar ++ '"' :: rest) := by
        rw [Scalar.text, stringText, List.cons_append, List.append_assoc]
        rfl
      rw [text, readToken, readString_escaped]
      exact congrArg (fun value => some (Token.scalar (.string value), rest)) String.ofList_toList

theorem readTokens_white {character : Char} (white : isWhite character = true)
    (text : List Char) : readTokens (character :: text) = readTokens text := by
  rw [readTokens, if_pos white]

/-- White space begins no token. -/
theorem readToken_white {character : Char} (white : isWhite character = true)
    (text : List Char) : readToken (character :: text) = none := by
  simp only [isWhite, Bool.or_eq_true, beq_iff_eq] at white
  obtain ((rfl | rfl) | rfl) | rfl := white <;> rfl

theorem readTokens_of_readToken {text rest : List Char} {token : Token}
    (read : readToken text = some (token, rest)) :
    readTokens text = (readTokens rest).map (token :: ·) := by
  cases text with
  | nil => cases read
  | cons first after =>
      cases white : isWhite first with
      | true =>
          rw [readToken_white white] at read
          cases read
      | false =>
          rw [readTokens, white]
          grind

theorem Spells.readTokens {tokens : List Token} {text : List Char} (spelled : Spells tokens text) :
    readTokens text = some tokens := by
  induction spelled with
  | nil => rw [Json.readTokens]
  | white white _ ih => rw [readTokens_white white, ih]
  | mark mark _ ih => rw [readTokens_of_readToken (readToken_mark mark _), ih, Option.map_some]
  | scalar readable ends _ ih =>
      rw [readTokens_of_readToken (readToken_scalar readable ends), ih, Option.map_some]

namespace Separate

theorem tail {token : Token} {tokens : List Token} (separate : Separate (token :: tokens)) :
    Separate tokens := by
  cases separate with
  | mark _ rest => exact rest
  | scalar _ _ rest => exact rest

/-- A mark keeps what stands before it apart from what stands behind it. -/
theorem append {first second : List Token} {token : Token} (before : Separate first)
    (mark : token.isScalar = false) (behind : Separate second) :
    Separate (first ++ token :: second) := by
  induction before with
  | nil => exact .mark mark behind
  | mark other _ ih => exact .mark other ih
  | @scalar tokens value readable followed _ ih =>
      refine .scalar readable ?_ ih
      cases tokens with
      | nil =>
          intro next first
          cases first
          exact mark
      | cons => exact followed

end Separate

theorem Token.text_endsNumber {token : Token} (mark : token.isScalar = false) (rest : List Char) :
    EndsNumber (token.text ++ rest) := by
  cases token with
  | scalar value => cases mark
  | _ => exact endsNumber_cons (by decide) rest

theorem spells_flatMap {tokens : List Token} (separate : Separate tokens) :
    Spells tokens (tokens.flatMap Token.text) := by
  induction separate with
  | nil => exact .nil
  | mark mark _ ih =>
      rw [List.flatMap_cons]
      exact .mark mark ih
  | @scalar tokens value readable followed _ ih =>
      rw [List.flatMap_cons]
      refine .scalar readable ?_ ih
      cases tokens with
      | nil => exact endsNumber_nil
      | cons next rest =>
          rw [List.flatMap_cons]
          exact next.text_endsNumber (followed next rfl) _

theorem Spells.lineBreak {tokens : List Token} {text : List Char} (spelled : Spells tokens text)
    (depth : Nat) : Spells tokens (lineBreak depth ++ text) := by
  refine .white rfl ?_
  induction 2 * depth with
  | zero => exact spelled
  | succ width ih => exact .white rfl ih

theorem layout_endsNumber {depth : Nat} {tokens : List Token}
    (marked : ∀ next ∈ tokens.head?, next.isScalar = false) : EndsNumber (layout depth tokens) := by
  fun_cases layout depth tokens with
  | case1 => exact endsNumber_nil
  | case10 value rest => cases marked (.scalar value) rfl
  | _ => exact endsNumber_cons (by decide) _

theorem spells_layout {tokens : List Token} (separate : Separate tokens) (depth : Nat) :
    Spells tokens (layout depth tokens) := by
  fun_induction layout depth tokens with
  | case1 => exact .nil
  | case2 depth rest ih | case3 depth rest ih =>
      exact .mark rfl (.mark rfl (ih separate.tail.tail))
  | case4 depth rest _ ih | case5 depth rest _ ih | case8 depth rest ih =>
      exact .mark rfl ((ih separate.tail).lineBreak _)
  | case6 depth rest ih | case7 depth rest ih =>
      exact .lineBreak (.mark rfl (ih separate.tail)) _
  | case9 depth rest ih => exact .mark rfl (.white rfl (ih separate.tail))
  | case10 depth value rest ih =>
      cases separate with
      | mark mark _ => cases mark
      | scalar readable followed rest => exact .scalar readable (layout_endsNumber followed) (ih rest)

end DirectoryName.Json

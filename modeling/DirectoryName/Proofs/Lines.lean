import DirectoryName.Text.Lines
import Mathlib.Data.List.Basic

namespace DirectoryName.Text

/-! The lines of a text, said without reading it.

A text has the same lines whether its line ends are line feeds alone or have carriage returns
in front, and where a line has ended the text behind it has lines of its own. -/

/-- What ends a line: a line feed, with the carriage return right before it if there is one. -/
inductive LineEnd (line : List Char) : List Char → Prop where
  | feed (noReturn : line.getLast? ≠ some '\r') : LineEnd line ['\n']
  | returnFeed : LineEnd line ['\r', '\n']

/-- What is behind the last line feed is a line if there is anything. -/
inductive HasLines : List Char → List String → Prop where
  | nil : HasLines [] []
  | last {line : String} (nonempty : line ≠ "") (noFeed : '\n' ∉ line.toList) :
      HasLines line.toList [line]
  | cons {line : String} {ending rest : List Char} {others : List String}
      (noFeed : '\n' ∉ line.toList) (ends : LineEnd line.toList ending)
      (behind : HasLines rest others) :
      HasLines (line.toList ++ (ending ++ rest)) (line :: others)

theorem linesFrom_cons {character : Char} (other : character ≠ '\n') (held rest : List Char) :
    linesFrom held (character :: rest) = linesFrom (character :: held) rest := by
  rw [linesFrom]
  exact fun feed => other feed

theorem linesFrom_append {line : List Char} (noFeed : '\n' ∉ line) (held rest : List Char) :
    linesFrom held (line ++ rest) = linesFrom (line.reverse ++ held) rest := by
  induction line generalizing held with
  | nil => rfl
  | cons character line ih =>
      rw [List.mem_cons, not_or] at noFeed
      rw [List.cons_append, linesFrom_cons (Ne.symm noFeed.1), ih noFeed.2, List.reverse_cons,
        List.append_assoc]
      rfl

theorem linesFrom_feed (held rest : List Char) :
    linesFrom held ('\n' :: rest) = closeLine held :: linesFrom [] rest := by
  rw [linesFrom]

theorem closeLine_reverse {line : List Char} (noReturn : line.getLast? ≠ some '\r') :
    closeLine line.reverse = line := by
  rw [← List.head?_reverse] at noReturn
  unfold closeLine
  split
  · next reversed =>
      rw [reversed] at noReturn
      exact absurd rfl noReturn
  · exact List.reverse_reverse line

namespace LineEnd

variable {line ending : List Char}

theorem linesFrom_eq (ends : LineEnd line ending) (rest : List Char) :
    linesFrom line.reverse (ending ++ rest) = line :: linesFrom [] rest := by
  cases ends with
  | feed noReturn =>
      rw [List.singleton_append, linesFrom_feed, closeLine_reverse noReturn]
  | returnFeed =>
      rw [List.cons_append, linesFrom_cons (by decide), List.singleton_append, linesFrom_feed,
        closeLine, List.reverse_reverse]

theorem count (ends : LineEnd line ending) : ending.count '\n' = 1 := by
  cases ends <;> rfl

/-- The characters before a line feed, newest first, are a line and the beginning of its end. -/
theorem exists_of_held (held rest : List Char) :
    ∃ ending, LineEnd (closeLine held) ending ∧
      held.reverse ++ '\n' :: rest = closeLine held ++ (ending ++ rest) := by
  unfold closeLine
  split
  · exact ⟨_, .returnFeed, by simp⟩
  · next noReturn =>
      refine ⟨_, .feed ?_, rfl⟩
      rw [List.getLast?_reverse]
      cases held <;> simp_all

end LineEnd

theorem not_mem_closeLine {held : List Char} (noFeed : '\n' ∉ held) : '\n' ∉ closeLine held := by
  unfold closeLine
  split <;> simp_all

namespace HasLines

variable {text : List Char} {lines : List String}

theorem linesFrom_eq (hasLines : HasLines text lines) :
    (linesFrom [] text).map String.ofList = lines := by
  induction hasLines with
  | nil => rfl
  | @last line nonempty noFeed =>
      have some : line.toList.reverse.isEmpty = false := by
        simpa [List.isEmpty_eq_false_iff] using nonempty
      have scanned := linesFrom_append noFeed [] []
      rw [List.append_nil, List.append_nil, linesFrom, some] at scanned
      rw [scanned]
      simp
  | cons noFeed ends _ ih =>
      rw [linesFrom_append noFeed, List.append_nil, ends.linesFrom_eq, List.map_cons, ih,
        String.ofList_toList]

/-- Characters held back, newest first, are the beginning of the first line. -/
theorem of_held {held : List Char} (noFeed : '\n' ∉ held) (text : List Char) :
    HasLines (held.reverse ++ text) ((linesFrom held text).map String.ofList) := by
  induction text generalizing held with
  | nil =>
      rw [List.append_nil, linesFrom]
      cases held with
      | nil => exact .nil
      | cons newest held =>
          have line := @last (String.ofList (newest :: held).reverse) (by simp)
            (by simpa [and_comm] using noFeed)
          rwa [String.toList_ofList] at line
  | cons character rest ih =>
      by_cases feed : character = '\n'
      · subst feed
        obtain ⟨ending, ends, same⟩ := LineEnd.exists_of_held held rest
        have line := @cons (String.ofList (closeLine held)) ending rest _
          (by simpa using not_mem_closeLine noFeed) (by simpa using ends)
          (@ih [] List.not_mem_nil)
        rwa [String.toList_ofList, ← same] at line
      · rw [linesFrom_cons feed]
        have noFeedYet : '\n' ∉ character :: held := by simp [noFeed, Ne.symm feed]
        have behind := ih noFeedYet
        rwa [List.reverse_cons, List.append_assoc] at behind

theorem not_ended {line : String} (nonempty : line ≠ "") (noFeed : '\n' ∉ line.toList) :
    ¬∀ last ∈ line.toList.getLast?, last = '\n' := by
  intro ended
  have nonempty : line.toList ≠ [] := by simpa using nonempty
  have last := ended _ (List.getLast?_eq_some_getLast nonempty)
  exact noFeed (last ▸ List.getLast_mem nonempty)

theorem ended_rest {line rest : List Char}
    (ended : ∀ last ∈ (line ++ rest).getLast?, last = '\n') :
    ∀ last ∈ rest.getLast?, last = '\n' :=
  fun last isLast => ended last (List.mem_getLast?_append_of_mem_getLast? isLast)

/-- Behind a line feed, or at the very beginning, more text has its own lines. -/
theorem append {rest : List Char} {others : List String} (hasLines : HasLines text lines)
    (ended : ∀ last ∈ text.getLast?, last = '\n') (behind : HasLines rest others) :
    HasLines (text ++ rest) (lines ++ others) := by
  induction hasLines with
  | nil => exact behind
  | last nonempty noFeed => exact absurd ended (not_ended nonempty noFeed)
  | cons noFeed ends _ ih =>
      rw [List.append_assoc, List.append_assoc]
      exact .cons noFeed ends (ih (ended_rest (ended_rest ended)))

theorem length (hasLines : HasLines text lines) (ended : ∀ last ∈ text.getLast?, last = '\n') :
    lines.length = text.count '\n' := by
  induction hasLines with
  | nil => rfl
  | last nonempty noFeed => exact absurd ended (not_ended nonempty noFeed)
  | cons noFeed ends _ ih =>
      rw [List.count_append, List.count_append, List.count_eq_zero_of_not_mem noFeed, ends.count,
        ← ih (ended_rest (ended_rest ended)), List.length_cons]
      omega

end HasLines

/-- The text with every line feed behind a carriage return. -/
def returning (text : List Char) : List Char :=
  text.flatMap fun character => if character = '\n' then ['\r', '\n'] else [character]

theorem returning_of_not_mem {line : List Char} (noFeed : '\n' ∉ line) :
    returning line = line := by
  induction line with
  | nil => rfl
  | cons character line ih =>
      rw [List.mem_cons, not_or] at noFeed
      have rest : returning line = line := ih noFeed.2
      rw [returning, List.flatMap_cons, if_neg (Ne.symm noFeed.1)]
      exact congrArg (character :: ·) rest

theorem returning_append (first second : List Char) :
    returning (first ++ second) = returning first ++ returning second :=
  List.flatMap_append

theorem HasLines.returning {text : List Char} {lines : List String}
    (hasLines : HasLines text lines) (noReturn : '\r' ∉ text) :
    HasLines (returning text) lines := by
  induction hasLines with
  | nil => exact .nil
  | last nonempty noFeed =>
      rw [returning_of_not_mem noFeed]
      exact .last nonempty noFeed
  | cons noFeed ends _ ih =>
      rw [returning_append, returning_append, returning_of_not_mem noFeed]
      cases ends with
      | feed => exact .cons noFeed .returnFeed (ih (by simp_all))
      | returnFeed => simp at noReturn

theorem hasLines_lines (text : String) : HasLines text.toList (lines text) :=
  HasLines.of_held List.not_mem_nil text.toList

theorem HasLines.lines_eq {text : String} {lines : List String}
    (hasLines : HasLines text.toList lines) : Text.lines text = lines :=
  hasLines.linesFrom_eq

theorem lines_append {text : String} (ended : ∀ last ∈ text.toList.getLast?, last = '\n')
    (rest : String) : lines (text ++ rest) = lines text ++ lines rest := by
  refine HasLines.lines_eq ?_
  rw [String.toList_append]
  exact (hasLines_lines text).append ended (hasLines_lines rest)

theorem lines_returning {text : String} (noReturn : '\r' ∉ text.toList) :
    lines (String.ofList (returning text.toList)) = lines text := by
  refine HasLines.lines_eq ?_
  rw [String.toList_ofList]
  exact (hasLines_lines text).returning noReturn

end DirectoryName.Text

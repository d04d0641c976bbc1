import Mathlib.Algebra.GroupWithZero.Nat
import Mathlib.Logic.Function.Iterate
import ColorMarkup.Highlight.Marker
import ColorMarkup.Proofs.Token

/-!
# A cursor from the first token to the last

A cursor hands out the tokens of a text, although all that it keeps of its place is a number of
bytes.  Cutting a text and joining the parts undo each other, so the tokens are the only parts that
a text has.

* `consumed` is what a cursor has gone past when it has handed out some tokens.
* `Cursor.next?_before` is one step: from the byte behind some tokens to the byte behind one more.
* `Cursor.iterate_advance` is the whole run: where a cursor stands after it has been asked any
  number of times, be it more often than there are tokens.
* `Cursor.walk_splits` puts this together with the two laws of cutting and joining.
-/

namespace ColorMarkup.Markup

variable {delimiter : Char}

/-! ## What has been gone past -/

/-- What stands in front of the next token when some tokens have been handed out: these, each with
the delimiter behind it. -/
def consumed (delimiter : Char) (done : List Text) : Text :=
  done.flatMap (· ++ [delimiter])

theorem consumed_cons (token : Text) (done : List Text) :
    consumed delimiter (token :: done) = token ++ delimiter :: consumed delimiter done := by
  simp [consumed]

theorem consumed_concat (done : List Text) (token : Text) :
    consumed delimiter (done ++ [token]) = consumed delimiter done ++ (token ++ [delimiter]) := by
  simp [consumed]

theorem byteLength_consumed (delimiter : Char) (done : List Text) :
    (consumed delimiter done).byteLength
      = (done.map Text.byteLength).sum + done.length * delimiter.utf8Size := by
  induction done with
  | nil => simp [consumed]
  | cons token done ih =>
    rw [consumed_cons, Text.byteLength_append, Text.byteLength_cons, ih, List.map_cons,
      List.sum_cons, List.length_cons, Nat.succ_mul]
    omega

/-- Behind some of its tokens, a text goes on with a text that the others make up. -/
theorem exists_eq_consumed_append {input : Text} {done later : List Text} (hlater : later ≠ [])
    (h : tokens delimiter input = done ++ later) :
    ∃ rest, input = consumed delimiter done ++ rest ∧ tokens delimiter rest = later := by
  induction done generalizing input with
  | nil => exact ⟨input, rfl, h⟩
  | cons token done ih =>
    obtain ⟨after, -, rfl, hafter⟩ := exists_of_tokens_eq_cons (by simp [hlater]) h
    obtain ⟨rest, rfl, hrest⟩ := ih hafter
    exact ⟨rest, by simp [consumed_cons], hrest⟩

/-- In front of every token, the text goes on with this token and those after it. -/
theorem exists_eq_consumed_take_append {input : Text} {i : ℕ}
    (hi : i < (tokens delimiter input).length) :
    ∃ rest, input = consumed delimiter ((tokens delimiter input).take i) ++ rest
      ∧ tokens delimiter rest
        = (tokens delimiter input)[i] :: (tokens delimiter input).drop (i + 1) := by
  apply exists_eq_consumed_append (List.cons_ne_nil _ _)
  rw [← List.drop_eq_getElem_cons hi, List.take_append_drop]

/-- A text holds the delimiter if it has a second token. -/
theorem mem_iff_of_tokens {text token : Text} {later : List Text}
    (h : tokens delimiter text = token :: later) : delimiter ∈ text ↔ later ≠ [] := by
  have hlength : (token :: later).length = text.count delimiter + 1 := h ▸ length_tokens _ _
  rw [← List.count_pos_iff, ← List.length_pos_iff]
  simp only [List.length_cons] at hlength
  omega

/-! ## One step -/

namespace Cursor

/-- The cursor in front of token `i`, or a finished one if there are not so many tokens. -/
def before (delimiter : Char) (input : Text) (i : ℕ) : Cursor :=
  let cut := tokens delimiter input
  { input, delimiter
    offset := if i < cut.length then some (consumed delimiter (cut.take i)).byteLength else none }

theorem isFinished_before (delimiter : Char) (input : Text) (i : ℕ) :
    (before delimiter input i).isFinished = true ↔ (tokens delimiter input).length ≤ i := by
  rw [isFinished, before, Option.isNone_iff_eq_none, ← Nat.not_lt]
  simp

/-- The cursor in front of a token hands out this token, and then it is in front of the next one. -/
theorem next?_before (delimiter : Char) (input : Text) (i : ℕ) :
    (before delimiter input i).next?
      = (tokens delimiter input)[i]?.map fun token => (token, before delimiter input (i + 1)) := by
  by_cases hi : i < (tokens delimiter input).length
  · obtain ⟨rest, hinput, hrest⟩ := exists_eq_consumed_take_append hi
    have hdrop : input.dropBytes?
        (consumed delimiter ((tokens delimiter input).take i)).byteLength = some rest :=
      (congrArg _ hinput).trans (Text.dropBytes?_byteLength_append _ rest)
    have htake : rest.takeWhile (· != delimiter) = (tokens delimiter input)[i] :=
      takeWhile_of_tokens hrest
    -- the delimiter is found again if another token comes after this one
    have hmore : delimiter ∈ rest ↔ i + 1 < (tokens delimiter input).length := by
      rw [mem_iff_of_tokens hrest, ne_eq, List.drop_eq_nil_iff, Nat.not_le]
    rw [List.getElem?_eq_getElem hi, Option.map_some]
    simp only [next?, before, hi, if_true, Option.bind_eq_bind, Option.bind_some, hdrop, htake,
      hmore, ← List.take_append_getElem hi, consumed_concat, Text.byteLength_append,
      Text.byteLength_cons, Text.byteLength_nil, Nat.add_zero, Nat.add_assoc]
    rfl
  · rw [next?_of_isFinished ((isFinished_before _ _ _).2 (Nat.le_of_not_lt hi)),
      List.getElem?_eq_none (Nat.le_of_not_lt hi), Option.map_none]

/-! ## The whole run -/

/-- The cursor after it has been asked for a token, whether or not there was one. -/
def advance (cursor : Cursor) : Cursor :=
  cursor.next?.elim cursor Prod.snd

/-- What a walk meets at each step is what the cursor hands out there. -/
theorem getElem?_walkAtMost (count : ℕ) (cursor : Cursor) (i : ℕ) :
    (walkAtMost count cursor)[i]? = if i < count then (advance^[i] cursor).next? else none := by
  induction count generalizing cursor i with
  | zero => simp [walkAtMost]
  | succ count ih =>
    rw [walkAtMost]
    cases hnext : cursor.next? with
    | none =>
      -- a cursor that has nothing to hand out stays as it is
      have hstays : advance cursor = cursor := by simp [advance, hnext]
      simp [Function.iterate_fixed hstays, hnext]
    | some step =>
      obtain ⟨token, after⟩ := step
      cases i with
      | zero => simp [hnext]
      | succ i =>
        have hadvance : advance cursor = after := by simp [advance, hnext]
        simp [ih, hadvance]

/-- A cursor that has been asked for a token `i` times is in front of token `i`. -/
theorem iterate_advance (delimiter : Char) (input : Text) (i : ℕ) :
    advance^[i] { input, delimiter } = before delimiter input i := by
  induction i with
  | zero =>
    have hpos : 0 < (tokens delimiter input).length :=
      List.length_pos_iff.2 (tokens_ne_nil delimiter input)
    simp [before, hpos, consumed]
  | succ i ih =>
    rw [Function.iterate_succ_apply', ih, advance, next?_before]
    by_cases hi : i < (tokens delimiter input).length
    · rw [List.getElem?_eq_getElem hi]
      rfl
    · have hmore : ¬i + 1 < (tokens delimiter input).length := by omega
      rw [List.getElem?_eq_none (Nat.le_of_not_lt hi)]
      simp [before, hi, hmore]

/-- The steps of a walk from the start: each hands out a token and leaves the cursor in front of the
next one. -/
theorem getElem?_walk (delimiter : Char) (input : Text) (i : ℕ) :
    (walk { input, delimiter })[i]?
      = (tokens delimiter input)[i]?.map fun token => (token, before delimiter input (i + 1)) := by
  have hbound : (tokens delimiter input).length ≤ input.length + 1 :=
    length_tokens_le delimiter input
  rw [walk, getElem?_walkAtMost, iterate_advance, next?_before]
  split
  · rfl
  · next hlong =>
    have hend : (tokens delimiter input).length ≤ i := Nat.le_trans hbound (Nat.le_of_not_lt hlong)
    rw [List.getElem?_eq_none hend, Option.map_none]

/-- A walk from the start hands out the tokens of the text. -/
theorem map_fst_walk (delimiter : Char) (input : Text) :
    (walk { input, delimiter }).map Prod.fst = tokens delimiter input := by
  apply List.ext_getElem?
  intro i
  rw [List.getElem?_map, getElem?_walk, Option.map_map]
  exact Option.map_id_apply

-- a delimiter of two bytes and a scalar of three
example : (walk ⟨"a§日§".toList, '§', some 0⟩).map (fun step => step.2.offset)
    = [some 3, some 8, none] := by decide

end Cursor

/-! ## Cutting and joining -/

/-- Joining the parts that a text was cut into and cutting what parts were joined to undo each
other, so a text has one cut into parts without the delimiter, the one that a cursor makes.  All the
way a cursor stands at the start of a scalar, behind the bytes of the tokens handed out and of as
many delimiters.  It is finished from the last token on, and then hands out nothing more. -/
theorem Cursor.walk_splits (delimiter : Char) (input : Text) :
    let handedOut (input : Text) : List Text := (walk { input, delimiter }).map Prod.fst
    let asked (i : ℕ) : Cursor := advance^[i] { input, delimiter }
    (∀ token ∈ handedOut input, delimiter ∉ token)
      ∧ List.intercalate [delimiter] (handedOut input) = input
      ∧ (handedOut input).length = input.count delimiter + 1
      ∧ (∀ parts : List Text, parts ≠ [] → (∀ part ∈ parts, delimiter ∉ part) →
          handedOut (List.intercalate [delimiter] parts) = parts)
      ∧ (∀ parts : List Text, parts ≠ [] → (∀ part ∈ parts, delimiter ∉ part) →
          List.intercalate [delimiter] parts = input → parts = handedOut input)
      ∧ (∀ i token, (handedOut input)[i]? = some token →
          ∃ past rest : Text,
            input = past ++ (token ++ rest)
              ∧ (asked i).offset = some past.byteLength
              ∧ past.byteLength
                = (((handedOut input).take i).map Text.byteLength).sum + i * delimiter.utf8Size
              ∧ past.byteLength ≤ input.byteLength
              ∧ input.dropBytes? past.byteLength = some (token ++ rest)
              ∧ (token ++ rest).takeBytes? token.byteLength = some token
              ∧ (asked i).next? = some (token, asked (i + 1)))
      ∧ (∀ i, (asked i).isFinished = true ↔ (handedOut input).length ≤ i)
      ∧ ∀ i, (handedOut input).length ≤ i → (asked i).next? = none := by
  intro handedOut asked
  have hhanded : ∀ input, handedOut input = tokens delimiter input := map_fst_walk delimiter
  have hasked : ∀ i, asked i = before delimiter input i := iterate_advance delimiter input
  have hjoined : ∀ parts : List Text, parts ≠ [] → (∀ part ∈ parts, delimiter ∉ part) →
      tokens delimiter (List.intercalate [delimiter] parts) = parts := by
    intro parts hne hparts
    exact List.splitOn_intercalate delimiter hparts hne
  simp only [hhanded, hasked]
  refine ⟨?_, intercalate_tokens delimiter input, length_tokens delimiter input, hjoined, ?_, ?_,
    isFinished_before delimiter input, ?_⟩
  · intro token htoken
    exact not_mem_of_mem_tokens htoken
  · rintro parts hne hparts rfl
    exact (hjoined parts hne hparts).symm
  · intro i token htoken
    obtain ⟨hi, rfl⟩ := List.getElem?_eq_some_iff.1 htoken
    obtain ⟨rest, hinput, hrest⟩ := exists_eq_consumed_take_append hi
    have hsplit : (tokens delimiter input)[i] ++ rest.dropWhile (· != delimiter) = rest := by
      rw [← takeWhile_of_tokens hrest, List.takeWhile_append_dropWhile]
    have hlength : (consumed delimiter ((tokens delimiter input).take i)).byteLength
        + rest.byteLength = input.byteLength := by
      rw [← Text.byteLength_append, ← hinput]
    refine ⟨consumed delimiter ((tokens delimiter input).take i), rest.dropWhile (· != delimiter),
      ?_, if_pos hi, ?_, ?_, ?_, Text.takeBytes?_byteLength_append _ _, ?_⟩
    · rw [hsplit]
      exact hinput
    · rw [byteLength_consumed, List.length_take, Nat.min_eq_left (Nat.le_of_lt hi)]
    · omega
    · rw [hsplit]
      exact (congrArg _ hinput).trans (Text.dropBytes?_byteLength_append _ rest)
    · rw [next?_before, htoken, Option.map_some]
  · intro i hi
    exact next?_of_isFinished ((isFinished_before delimiter input i).2 hi)

end ColorMarkup.Markup

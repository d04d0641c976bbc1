import Mathlib.Data.List.TakeWhile
import ColorMarkup.Markup.Token

/-!
# Cutting and joining

What the tokens of a text are, from the tokens of its parts, and that a cursor hands out exactly
these.  The statements that later modules build on:

* `tokens_append_delimiter`, a text with a delimiter between two parts;
* `tokens_append`, a text of two parts without one: the last token of the first part and the first
  token of the second make one token;
* `Cursor.next?_of_ahead`, one step of a cursor: what is ahead of it is handed out in order.
-/

namespace ColorMarkup.Markup

/-! ## The tokens of a text -/

variable {delimiter : Char}

theorem tokens_ne_nil (delimiter : Char) (markup : Text) : tokens delimiter markup ≠ [] :=
  List.splitOn_ne_nil delimiter markup

/-- There is a last token. -/
theorem exists_tokens_eq_concat (delimiter : Char) (markup : Text) :
    ∃ init last, tokens delimiter markup = init ++ [last] :=
  ⟨_, _, (List.dropLast_concat_getLast (tokens_ne_nil delimiter markup)).symm⟩

/-- Joining the tokens gives the text back. -/
theorem intercalate_tokens (delimiter : Char) (markup : Text) :
    List.intercalate [delimiter] (tokens delimiter markup) = markup :=
  List.intercalate_splitOn delimiter

/-- A text without a delimiter is one token. -/
theorem tokens_of_not_mem {markup : Text} (h : delimiter ∉ markup) :
    tokens delimiter markup = [markup] :=
  List.splitOn_eq_singleton h

/-- A delimiter between two texts keeps their tokens apart. -/
theorem tokens_append_delimiter (a b : Text) :
    tokens delimiter (a ++ delimiter :: b) = tokens delimiter a ++ tokens delimiter b :=
  List.splitOn_append_cons_self a b

/-- The token before the first delimiter. -/
theorem tokens_append_delimiter_of_not_mem {token : Text} (h : delimiter ∉ token) (rest : Text) :
    tokens delimiter (token ++ delimiter :: rest) = token :: tokens delimiter rest := by
  rw [tokens_append_delimiter, tokens_of_not_mem h, List.singleton_append]

/-- A text is one token, or a token, a delimiter and the text that the other tokens make up. -/
theorem tokens_cases (delimiter : Char) (markup : Text) :
    (delimiter ∉ markup ∧ tokens delimiter markup = [markup]) ∨
      ∃ token rest, delimiter ∉ token ∧ markup = token ++ delimiter :: rest ∧
        tokens delimiter markup = token :: tokens delimiter rest := by
  by_cases h : delimiter ∈ markup
  · obtain ⟨token, rest, rfl, htoken⟩ := List.eq_append_cons_of_mem h
    exact .inr ⟨token, rest, htoken, rfl, tokens_append_delimiter_of_not_mem htoken rest⟩
  · exact .inl ⟨h, tokens_of_not_mem h⟩

/-- What follows the first token, if anything does, is a text of its own. -/
theorem exists_of_tokens_eq_cons {markup token : Text} {rest : List Text} (hrest : rest ≠ [])
    (h : tokens delimiter markup = token :: rest) :
    ∃ after, delimiter ∉ token ∧ markup = token ++ delimiter :: after ∧
      tokens delimiter after = rest := by
  rcases tokens_cases delimiter markup with ⟨_, hone⟩ | ⟨first, after, hfirst, rfl, hcut⟩
  · rw [hone] at h
    exact absurd (List.cons.inj h).2.symm hrest
  · rw [hcut] at h
    obtain ⟨rfl, hafter⟩ := List.cons.inj h
    exact ⟨after, hfirst, rfl, hafter⟩

/-- No token holds the delimiter. -/
theorem not_mem_of_mem_tokens {markup token : Text} (h : token ∈ tokens delimiter markup) :
    delimiter ∉ token := by
  -- by induction on the tokens, for every text that they are cut from
  generalize hcut : tokens delimiter markup = cut at h
  induction cut generalizing markup with
  | nil => exact absurd hcut (tokens_ne_nil delimiter markup)
  | cons first rest ih =>
    rcases tokens_cases delimiter markup with ⟨hnot, hone⟩ | ⟨start, after, hstart, _, hcons⟩
    · rw [hone] at hcut
      obtain ⟨rfl, rfl⟩ := List.cons.inj hcut
      rw [List.mem_singleton.1 h]
      exact hnot
    · rw [hcons] at hcut
      obtain ⟨rfl, hrest⟩ := List.cons.inj hcut
      rcases List.mem_cons.1 h with rfl | hmem
      · exact hstart
      · exact ih hrest hmem

/-- Every scalar of a token is one of the text. -/
theorem mem_of_mem_tokens {markup token : Text} {c : Char} (h : token ∈ tokens delimiter markup)
    (hc : c ∈ token) : c ∈ markup := by
  rw [← intercalate_tokens delimiter markup]
  generalize tokens delimiter markup = cut at h
  induction cut with
  | nil => exact absurd h List.not_mem_nil
  | cons first rest ih =>
    cases rest with
    | nil =>
      rw [List.mem_singleton.1 h] at hc
      simpa using hc
    | cons second rest =>
      rw [List.intercalate_cons_cons]
      rcases List.mem_cons.1 h with rfl | hmem
      · exact List.mem_append_left _ (List.mem_append_left _ hc)
      · exact List.mem_append_right _ (ih hmem)

/-- A text has one token more than it has delimiters. -/
theorem length_tokens (delimiter : Char) (markup : Text) :
    (tokens delimiter markup).length = markup.count delimiter + 1 := by
  -- every token but the last takes its delimiter with it
  generalize hcut : tokens delimiter markup = cut
  induction cut generalizing markup with
  | nil => exact absurd hcut (tokens_ne_nil delimiter markup)
  | cons first rest ih =>
    have hfirst : first.count delimiter = 0 :=
      List.count_eq_zero.2 (not_mem_of_mem_tokens (hcut ▸ List.mem_cons_self))
    by_cases hrest : rest = []
    · have hmarkup : markup = first := by
        rw [← intercalate_tokens delimiter markup, hcut, hrest, List.intercalate_singleton]
      rw [hmarkup, hfirst, hrest, List.length_singleton]
    · obtain ⟨after, _, rfl, hafter⟩ := exists_of_tokens_eq_cons hrest hcut
      rw [List.length_cons, ih after hafter, List.count_append, hfirst, List.count_cons_self]
      omega

/-- A text has at most one token more than it has scalars. -/
theorem length_tokens_le (delimiter : Char) (markup : Text) :
    (tokens delimiter markup).length ≤ markup.length + 1 := by
  rw [length_tokens]
  exact Nat.succ_le_succ List.count_le_length

/-- A text in front that has no delimiter joins the first token. -/
theorem tokens_append_of_not_mem {a b first : Text} {rest : List Text} (ha : delimiter ∉ a)
    (hb : tokens delimiter b = first :: rest) :
    tokens delimiter (a ++ b) = (a ++ first) :: rest := by
  rcases tokens_cases delimiter b with ⟨hnot, hone⟩ | ⟨token, after, htoken, rfl, hcons⟩
  · have hab : delimiter ∉ a ++ b := by simp [ha, hnot]
    rw [hone] at hb
    obtain ⟨rfl, rfl⟩ := List.cons.inj hb
    exact tokens_of_not_mem hab
  · have hab : delimiter ∉ a ++ token := by simp [ha, htoken]
    rw [hcons] at hb
    obtain ⟨rfl, rfl⟩ := List.cons.inj hb
    rw [← List.append_assoc, tokens_append_delimiter_of_not_mem hab]

/-- Where two texts meet, the last token of the one and the first token of the other make one
token. -/
theorem tokens_append {a b last first : Text} {init rest : List Text}
    (ha : tokens delimiter a = init ++ [last]) (hb : tokens delimiter b = first :: rest) :
    tokens delimiter (a ++ b) = init ++ (last ++ first) :: rest := by
  induction init generalizing a with
  | nil =>
    rcases tokens_cases delimiter a with ⟨hnot, hone⟩ | ⟨token, after, _, _, hcons⟩
    · rw [hone] at ha
      obtain ⟨rfl, -⟩ := List.cons.inj ha
      exact tokens_append_of_not_mem hnot hb
    · rw [hcons] at ha
      exact absurd (List.cons.inj ha).2 (tokens_ne_nil delimiter after)
  | cons token init ih =>
    obtain ⟨after, htoken, rfl, hafter⟩ := exists_of_tokens_eq_cons (by simp) ha
    rw [List.append_assoc, List.cons_append, tokens_append_delimiter_of_not_mem htoken, ih hafter]
    rfl

theorem takeWhile_of_not_mem {token : Text} (h : delimiter ∉ token) :
    token.takeWhile (· != delimiter) = token := by
  rw [List.takeWhile_eq_self_iff]
  intro c hc
  simpa using fun heq : c = delimiter => h (heq ▸ hc)

/-- The first token stands before the first delimiter. -/
theorem takeWhile_of_tokens {markup first : Text} {rest : List Text}
    (h : tokens delimiter markup = first :: rest) :
    markup.takeWhile (· != delimiter) = first := by
  have hfirst : first.takeWhile (· != delimiter) = first :=
    takeWhile_of_not_mem (not_mem_of_mem_tokens (h ▸ List.mem_cons_self))
  rcases tokens_cases delimiter markup with ⟨_, hone⟩ | ⟨token, after, _, hmarkup, hcons⟩
  · rw [hone] at h
    obtain ⟨rfl, -⟩ := List.cons.inj h
    exact hfirst
  · rw [hcons] at h
    obtain ⟨rfl, -⟩ := List.cons.inj h
    rw [hmarkup, List.takeWhile_append, hfirst]
    simp

/-! ## Walking through the tokens -/

namespace Cursor

/-- The tokens that a cursor has yet to hand out are `ahead`: it stands in front of a text that they
make up, or it is finished and there are none. -/
inductive Ahead (cursor : Cursor) : List Text → Prop where
  | finished (h : cursor.offset = none) : Ahead cursor []
  | before (start rest : Text) (hinput : cursor.input = start ++ rest)
      (hoffset : cursor.offset = some start.byteLength) :
      Ahead cursor (tokens cursor.delimiter rest)

theorem ahead_start (delimiter : Char) (markup : Text) :
    Ahead { input := markup, delimiter } (tokens delimiter markup) :=
  .before [] markup rfl rfl

theorem next?_of_ahead_nil {cursor : Cursor} (h : cursor.Ahead []) : cursor.next? = none := by
  generalize hahead : ([] : List Text) = ahead at h
  cases h with
  | finished h => simp [next?, h]
  | before start rest => exact absurd hahead.symm (tokens_ne_nil _ _)

/-- A cursor hands out the first token ahead of it and then stands in front of the others; it is
finished once there are no others. -/
theorem next?_of_ahead {cursor : Cursor} {token : Text} {ahead : List Text}
    (h : cursor.Ahead (token :: ahead)) :
    ∃ after, cursor.next? = some (token, after) ∧ after.Ahead ahead ∧
      (after.isFinished = true ↔ ahead = []) ∧ after.input = cursor.input := by
  obtain ⟨input, delimiter, offset⟩ := cursor
  generalize hahead : token :: ahead = all at h
  cases h with
  | finished h => exact absurd hahead (by simp)
  | before start rest hinput hoffset =>
    dsimp only at hinput hoffset hahead ⊢
    subst hinput hoffset
    have hdrop : (start ++ rest).dropBytes? start.byteLength = some rest :=
      Text.dropBytes?_byteLength_append start rest
    rcases tokens_cases delimiter rest with ⟨hnot, hone⟩ | ⟨first, later, hfirst, rfl, hcons⟩
    · rw [hone] at hahead
      obtain ⟨rfl, rfl⟩ := List.cons.inj hahead
      have htake : token.takeWhile (· != delimiter) = token :=
        takeWhile_of_not_mem hnot
      refine ⟨⟨start ++ token, delimiter, none⟩, ?_, .finished rfl, ?_, rfl⟩
      · simp [next?, hdrop, hnot, htake]
      · simp [isFinished]
    · rw [hcons] at hahead
      obtain ⟨rfl, rfl⟩ := List.cons.inj hahead
      have htake : (token ++ delimiter :: later).takeWhile (· != delimiter) = token := by
        rw [List.takeWhile_append, takeWhile_of_not_mem hfirst]
        simp
      -- what stands before the new offset: the tokens so far, this one and the delimiter
      refine ⟨⟨start ++ (token ++ delimiter :: later), delimiter,
        some (start ++ token ++ [delimiter]).byteLength⟩, ?_, ?_, ?_, rfl⟩
      · simp [next?, hdrop, htake, Nat.add_assoc]
      · exact .before (start ++ token ++ [delimiter]) later (by simp) rfl
      · simp [isFinished, tokens_ne_nil]

end Cursor

end ColorMarkup.Markup

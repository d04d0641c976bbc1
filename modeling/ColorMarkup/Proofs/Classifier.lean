import Mathlib.Algebra.Ring.Parity
import Mathlib.Data.List.Induction
import ColorMarkup.Markup.Classifier
import ColorMarkup.Proofs.Token

/-!
# Which tokens are directives

Whether a token is read as a directive depends on the state of the classifier, and so on all tokens
before it.  The state can be left out: a token between the first and the last that is a directive by
itself is read as one if and only if the number of such tokens in a row just before it is even.

* `classified` is all that rendering uses of the items of a text: each token, with the paint it sets
  if it is read as a directive.
* `getElem?_itemsAfterFirst` and `after_eq_payload_iff` are the two halves of the rule: the state
  before a token is what is expected after the tokens before it, and that is a payload if and only
  if they end in an odd run of directives.
* `map_walk` says that the classifier, step by step, hands out the items of the text.
* `walk_classified` puts these together.
-/

namespace ColorMarkup.Markup

variable {delimiter : Char}

/-! ## Items as rendering sees them -/

/-- A token, with the paint that it sets if it is read as a directive. -/
def Item.classified (item : Item) : Text × Option Paint :=
  (item.token, item.reading.paint?)

/-- The tokens of a markup text, each with the paint that it sets if it is read as a directive. -/
def classified (delimiter : Char) (markup : Text) : List (Text × Option Paint) :=
  (items delimiter markup).map Item.classified

@[simp] theorem classified_shown (token : Text) : (Item.shown token).classified = (token, none) :=
  rfl

/-- Only where a directive is expected is a token read as one. -/
theorem paint?_read (expectation : Expectation) (token : Text) :
    (expectation.read token).paint?
      = if expectation = .directive then directive? token else none := by
  cases expectation <;> rfl

/-- A payload is expected after a directive and only then. -/
theorem expectation_eq_payload_iff (reading : Reading) :
    reading.expectation = .payload ↔ reading.paint?.isSome := by
  cases reading <;> simp [Reading.expectation, Reading.paint?]

theorem ne_payload_iff (expectation : Expectation) :
    expectation ≠ .payload ↔ expectation = .directive := by
  cases expectation <;> simp

/-! ## The state before a token -/

/-- What is expected after some tokens that all have a delimiter on both sides. -/
def Expectation.after (expectation : Expectation) (tokens : List Text) : Expectation :=
  tokens.foldl (fun expected token => (expected.read token).expectation) expectation

/-- The length of the run of directives in which the tokens end, each token read by itself. -/
def trailingRun (tokens : List Text) : Nat :=
  (tokens.reverse.takeWhile fun token => (directive? token).isSome).length

theorem trailingRun_concat (tokens : List Text) (token : Text) :
    trailingRun (tokens ++ [token])
      = if (directive? token).isSome then trailingRun tokens + 1 else 0 := by
  unfold trailingRun
  rw [List.reverse_concat, List.takeWhile_cons]
  split <;> simp

/-- From a directive expected, a payload is expected after an odd run of directives and only then:
every second one in a run is a payload. -/
theorem after_eq_payload_iff (tokens : List Text) :
    Expectation.after .directive tokens = .payload ↔ Odd (trailingRun tokens) := by
  induction tokens using List.reverseRecOn with
  | nil => simp [Expectation.after, trailingRun]
  | append_singleton tokens token ih =>
    have hstep : Expectation.after .directive (tokens ++ [token])
        = ((Expectation.after .directive tokens).read token).expectation := by
      simp [Expectation.after]
    rw [hstep, expectation_eq_payload_iff, paint?_read, trailingRun_concat]
    by_cases hdirective : (directive? token).isSome
    · -- the token is a directive if and only if the run before it is even
      rw [if_pos hdirective, Nat.odd_add_one, ← ih]
      by_cases hafter : Expectation.after .directive tokens = .directive
      · simp [hafter, hdirective]
      · have hpayload : Expectation.after .directive tokens = .payload :=
          not_not.1 fun h => hafter ((ne_payload_iff _).1 h)
        simp [hpayload]
    · rw [if_neg hdirective]
      split <;> simp [hdirective]

/-- The item of a token after the first: the last one is shown, and each other one is read as the
tokens before it make one expect. -/
theorem getElem?_itemsAfterFirst (expectation : Expectation) (rest : List Text) (i : ℕ) :
    (itemsAfterFirst expectation rest)[i]?
      = rest[i]?.map fun token =>
          if i + 1 < rest.length then ⟨token, (expectation.after (rest.take i)).read token⟩
          else .shown token := by
  induction rest generalizing expectation i with
  | nil => simp [itemsAfterFirst]
  | cons token rest ih =>
    cases rest with
    | nil => cases i <;> simp [itemsAfterFirst]
    | cons following rest =>
      rw [itemsAfterFirst]
      cases i with
      | zero => simp [Expectation.after]
      | succ i => simp [ih, Expectation.after]

/-- How many tokens in a row just before place `i`, the first token of all not among them, are
directives by themselves. -/
def runBefore (tokens : List Text) (i : ℕ) : ℕ :=
  trailingRun ((tokens.take i).drop 1)

/-- The rule: which tokens of a text are directives can be read off the tokens alone. -/
theorem classified_eq_mapIdx (delimiter : Char) (markup : Text) :
    classified delimiter markup
      = (tokens delimiter markup).mapIdx fun i token =>
          (token,
            if 0 < i ∧ i + 1 < (tokens delimiter markup).length
                ∧ Even (runBefore (tokens delimiter markup) i) then
              directive? token
            else none) := by
  unfold classified items
  cases hcut : tokens delimiter markup with
  | nil => exact absurd hcut (tokens_ne_nil delimiter markup)
  | cons first rest =>
    apply List.ext_getElem?
    intro i
    cases i with
    | zero => simp
    | succ i =>
      have hrun : runBefore (first :: rest) (i + 1) = trailingRun (rest.take i) := by
        simp [runBefore]
      have hparity : Expectation.after .directive (rest.take i) = .directive
          ↔ Even (trailingRun (rest.take i)) := by
        rw [← ne_payload_iff, ne_eq, after_eq_payload_iff, Nat.not_odd_iff_even]
      rw [List.map_cons, List.getElem?_cons_succ, List.getElem?_map, getElem?_itemsAfterFirst,
        List.getElem?_mapIdx, List.getElem?_cons_succ, Option.map_map, hrun]
      congr 1
      funext token
      by_cases hbounded : i + 1 < rest.length
      · simp [Item.classified, hbounded, paint?_read, hparity]
      · simp [hbounded]

theorem map_fst_classified (delimiter : Char) (markup : Text) :
    (classified delimiter markup).map Prod.fst = tokens delimiter markup := by
  rw [← map_token_items, classified, List.map_map]
  rfl

theorem mem_tokens_of_mem_classified {markup : Text} {token : Text × Option Paint}
    (h : token ∈ classified delimiter markup) : token.1 ∈ tokens delimiter markup :=
  map_fst_classified delimiter markup ▸ List.mem_map_of_mem h

theorem not_mem_of_mem_classified {markup : Text} {token : Text × Option Paint}
    (h : token ∈ classified delimiter markup) : delimiter ∉ token.1 :=
  not_mem_of_mem_tokens (mem_tokens_of_mem_classified h)

theorem runBefore_succ {tokens : List Text} {i : ℕ} {token : Text} (hi : 0 < i)
    (htoken : tokens[i]? = some token) :
    runBefore tokens (i + 1)
      = if (directive? token).isSome then runBefore tokens i + 1 else 0 := by
  have hlength : 1 ≤ (tokens.take i).length := by
    have hlt : i < tokens.length := (List.getElem?_eq_some_iff.1 htoken).1
    rw [List.length_take]
    omega
  unfold runBefore
  rw [List.take_add_one, htoken, Option.toList_some, List.drop_append_of_le_length hlength,
    trailingRun_concat]

/-- The paint that the token at place `i` sets, if there is one and it is read as a directive. -/
def paintAt? (delimiter : Char) (markup : Text) (i : ℕ) : Option Paint :=
  (classified delimiter markup)[i]?.bind Prod.snd

theorem paintAt?_eq_some_iff {markup : Text} {i : ℕ} {paint : Paint} :
    paintAt? delimiter markup i = some paint ↔
      0 < i ∧ i + 1 < (tokens delimiter markup).length
        ∧ (tokens delimiter markup)[i]?.bind directive? = some paint
        ∧ Even (runBefore (tokens delimiter markup) i) := by
  rw [paintAt?, classified_eq_mapIdx, List.getElem?_mapIdx]
  cases htoken : (tokens delimiter markup)[i]? with
  | none => simp
  | some token =>
    simp only [Option.map_some, Option.bind_some]
    split <;> simp_all

/-- No two directives stand side by side. -/
theorem paintAt?_succ_of_isSome {markup : Text} {i : ℕ}
    (h : (paintAt? delimiter markup i).isSome) : paintAt? delimiter markup (i + 1) = none := by
  obtain ⟨paint, hpaint⟩ := Option.isSome_iff_exists.1 h
  obtain ⟨hpos, -, hbind, heven⟩ := paintAt?_eq_some_iff.1 hpaint
  obtain ⟨token, htoken, hdirective⟩ := Option.bind_eq_some_iff.1 hbind
  rw [Option.eq_none_iff_forall_ne_some]
  intro next hnext
  obtain ⟨-, -, -, hodd⟩ := paintAt?_eq_some_iff.1 hnext
  -- the run before the second one is longer by the first
  rw [runBefore_succ hpos htoken, hdirective, Option.isSome_some, if_pos rfl,
    Nat.even_add_one] at hodd
  exact hodd heven

theorem paintAt?_zero (delimiter : Char) (markup : Text) : paintAt? delimiter markup 0 = none := by
  rw [Option.eq_none_iff_forall_ne_some]
  intro paint hpaint
  exact absurd (paintAt?_eq_some_iff.1 hpaint).1 (lt_irrefl 0)

theorem paintAt?_of_length_le {markup : Text} {i : ℕ}
    (h : (tokens delimiter markup).length ≤ i + 1) : paintAt? delimiter markup i = none := by
  rw [Option.eq_none_iff_forall_ne_some]
  intro paint hpaint
  have hlt := (paintAt?_eq_some_iff.1 hpaint).2.1
  omega

/-! ## The classifier -/

namespace Classifier

/-- One step after the first token: the token ahead is read as expected, unless it is the last. -/
theorem next?_of_ahead {cursor : Cursor} {token : Text} {ahead : List Text}
    (h : cursor.Ahead (token :: ahead)) (expectation : Expectation) :
    ∃ after : Cursor, after.Ahead ahead ∧
      next? ⟨cursor, expectation, false⟩
        = some (if ahead = [] then (.shown token, ⟨after, .directive, false⟩)
            else (⟨token, expectation.read token⟩,
              ⟨after, (expectation.read token).expectation, false⟩)) := by
  obtain ⟨after, hnext, hahead, hfinished, -⟩ := Cursor.next?_of_ahead h
  refine ⟨after, hahead, ?_⟩
  by_cases hlast : ahead = []
  · simp [next?, hnext, hfinished.2 hlast, hlast, Item.shown, Reading.expectation]
  · have hmore : after.isFinished = false := Bool.eq_false_iff.2 (mt hfinished.1 hlast)
    simp [next?, hnext, hmore, hlast]

/-- The first token is shown whatever it looks like. -/
theorem next?_first_of_ahead {cursor : Cursor} {token : Text} {ahead : List Text}
    (h : cursor.Ahead (token :: ahead)) (expectation : Expectation) :
    ∃ after : Cursor, after.Ahead ahead ∧
      next? ⟨cursor, expectation, true⟩ = some (.shown token, ⟨after, .directive, false⟩) := by
  obtain ⟨after, hnext, hahead, -⟩ := Cursor.next?_of_ahead h
  exact ⟨after, hahead, by simp [next?, hnext, Item.shown, Reading.expectation]⟩

theorem next?_of_ahead_nil {cursor : Cursor} (h : cursor.Ahead []) (expectation : Expectation)
    (first : Bool) : next? ⟨cursor, expectation, first⟩ = none := by
  simp [next?, Cursor.next?_of_ahead_nil h]

theorem walkAtMost_of_ahead_nil {cursor : Cursor} (h : cursor.Ahead []) (expectation : Expectation)
    (first : Bool) (count : ℕ) : walkAtMost count ⟨cursor, expectation, first⟩ = [] := by
  cases count with
  | zero => rfl
  | succ count => simp [walkAtMost, next?_of_ahead_nil h]

/-- The steps after the first, given enough of them: what is handed out, and what is expected after
it. -/
theorem map_walkAtMost {cursor : Cursor} {ahead : List Text} (h : cursor.Ahead ahead)
    (expectation : Expectation) {count : ℕ} (hcount : ahead.length ≤ count) :
    ((walkAtMost count ⟨cursor, expectation, false⟩).map fun step =>
        (step.1, step.2.expectation))
      = (itemsAfterFirst expectation ahead).map fun item => (item, item.reading.expectation) := by
  induction ahead generalizing cursor expectation count with
  | nil => simp [walkAtMost_of_ahead_nil h, itemsAfterFirst]
  | cons token ahead ih =>
    obtain ⟨count, rfl⟩ : ∃ n, count = n + 1 := ⟨count - 1, by simp at hcount; omega⟩
    have hrest : ahead.length ≤ count := by simpa using hcount
    obtain ⟨after, hafter, hnext⟩ := next?_of_ahead h expectation
    cases ahead with
    | nil =>
      have hend : walkAtMost count ⟨after, .directive, false⟩ = [] :=
        walkAtMost_of_ahead_nil hafter .directive false count
      simp [walkAtMost, hnext, hend, itemsAfterFirst, Item.shown, Reading.expectation]
    | cons following ahead =>
      simp [walkAtMost, hnext, itemsAfterFirst, ih hafter _ hrest]

/-- After the last step, given enough of them, there is none. -/
theorem next?_of_getLast?_walkAtMost {cursor : Cursor} {ahead : List Text} (h : cursor.Ahead ahead)
    {expectation : Expectation} {first : Bool} {count : ℕ} (hcount : ahead.length ≤ count)
    {last : Item × Classifier}
    (hlast : (walkAtMost count ⟨cursor, expectation, first⟩).getLast? = some last) :
    last.2.next? = none := by
  induction ahead generalizing cursor expectation first count with
  | nil => simp [walkAtMost_of_ahead_nil h] at hlast
  | cons token ahead ih =>
    obtain ⟨count, rfl⟩ : ∃ n, count = n + 1 := ⟨count - 1, by simp at hcount; omega⟩
    have hrest : ahead.length ≤ count := by simpa using hcount
    obtain ⟨item, after, expected, hafter, hnext⟩ : ∃ item after expected,
        Cursor.Ahead after ahead
          ∧ next? ⟨cursor, expectation, first⟩ = some (item, ⟨after, expected, false⟩) := by
      obtain ⟨after, hnext, hafter, -⟩ := Cursor.next?_of_ahead h
      exact ⟨_, after, _, hafter, by simp only [next?, hnext]; rfl⟩
    simp only [walkAtMost, hnext, List.getLast?_cons] at hlast
    cases hlater : (walkAtMost count ⟨after, expected, false⟩).getLast? with
    | some later =>
      rw [hlater] at hlast
      obtain rfl : later = last := by simpa using hlast
      exact ih hafter hrest hlater
    | none =>
      rw [hlater] at hlast
      obtain rfl : (item, ⟨after, expected, false⟩) = last := by simpa using hlast
      -- nothing was handed out after this step, so nothing was ahead
      have hmap := map_walkAtMost hafter expected hrest
      rw [List.getLast?_eq_none_iff.1 hlater] at hmap
      cases ahead with
      | nil => exact next?_of_ahead_nil hafter expected false
      | cons following ahead => cases ahead <;> simp [itemsAfterFirst] at hmap

/-- A classifier hands out the items of its text. -/
theorem map_walk (delimiter : Char) (markup : Text) :
    ((new delimiter markup).walk.map fun step => (step.1, step.2.expectation))
      = (items delimiter markup).map fun item => (item, item.reading.expectation) := by
  have hahead := Cursor.ahead_start delimiter markup
  have hlength : (tokens delimiter markup).length ≤ markup.length + 1 :=
    length_tokens_le delimiter markup
  unfold walk new items
  cases hcut : tokens delimiter markup with
  | nil => exact absurd hcut (tokens_ne_nil delimiter markup)
  | cons first rest =>
    rw [hcut] at hahead hlength
    obtain ⟨after, hafter, hnext⟩ := next?_first_of_ahead hahead .directive
    have hrest : rest.length ≤ markup.length := by simpa using hlength
    simp [walkAtMost, hnext, map_walkAtMost hafter .directive hrest, Item.shown,
      Reading.expectation]

/-- What a classifier hands out, as rendering sees it. -/
theorem map_classified_walk (delimiter : Char) (markup : Text) :
    ((new delimiter markup).walk.map fun step => step.1.classified)
      = classified delimiter markup := by
  have hmap := congrArg (List.map fun pair => pair.1.classified) (map_walk delimiter markup)
  simpa [Function.comp_def, classified] using hmap

/-- What a classifier expects after a step depends on what it has just read. -/
theorem expectation_of_mem_walk {markup : Text} {step : Item × Classifier}
    (h : step ∈ (new delimiter markup).walk) :
    step.2.expectation = step.1.reading.expectation := by
  have hmem : (step.1, step.2.expectation)
      ∈ (new delimiter markup).walk.map fun step => (step.1, step.2.expectation) :=
    List.mem_map.2 ⟨step, h, rfl⟩
  rw [map_walk] at hmem
  obtain ⟨item, -, hitem⟩ := List.mem_map.1 hmem
  obtain ⟨rfl, hsame⟩ := Prod.mk.inj hitem
  exact hsame.symm

/-- A classifier takes as many steps as there are tokens. -/
theorem length_walk (delimiter : Char) (markup : Text) :
    (new delimiter markup).walk.length = (tokens delimiter markup).length := by
  have hlength := congrArg List.length (map_classified_walk delimiter markup)
  simpa [classified_eq_mapIdx] using hlength

theorem exists_getLast?_walk (delimiter : Char) (markup : Text) :
    ∃ last, (new delimiter markup).walk.getLast? = some last := by
  have hpos : 0 < (new delimiter markup).walk.length := by
    rw [length_walk]
    exact List.length_pos_iff.2 (tokens_ne_nil delimiter markup)
  exact ⟨_, List.getLast?_eq_some_getLast (List.length_pos_iff.1 hpos)⟩

end Classifier

/-! ## The rule for the classifier -/

/-- What a classifier does, said without its state. -/
theorem walk_classified (delimiter : Char) (markup : Text) :
    let cut := tokens delimiter markup
    let start := Classifier.new delimiter markup
    let paint? (i : ℕ) := start.walk[i]?.bind fun step => step.1.reading.paint?
    ((start.walk.map fun step => step.1.classified)
        = cut.mapIdx fun i token =>
            (token,
              if 0 < i ∧ i + 1 < cut.length ∧ Even (runBefore cut i) then directive? token
              else none))
      ∧ start.expectation = .directive
      ∧ (∀ step ∈ start.walk, step.2.expectation = .payload ↔ step.1.reading.paint?.isSome)
      ∧ (∃ last, start.walk.getLast? = some last ∧ last.2.expectation = .directive
          ∧ last.2.next? = none)
      ∧ (∀ i, (paint? i).isSome → paint? (i + 1) = none)
      ∧ paint? 0 = none ∧ paint? (start.walk.length - 1) = none := by
  intro cut start paint?
  have hpaint : ∀ i, paint? i = paintAt? delimiter markup i := by
    intro i
    rw [paintAt?, ← Classifier.map_classified_walk, List.getElem?_map, Option.bind_map]
    rfl
  have hlast : paint? (start.walk.length - 1) = none := by
    rw [hpaint, Classifier.length_walk]
    exact paintAt?_of_length_le (by omega)
  refine ⟨?_, rfl, ?_, ?_, ?_, ?_, hlast⟩
  · rw [Classifier.map_classified_walk]
    exact classified_eq_mapIdx delimiter markup
  · intro step hstep
    rw [Classifier.expectation_of_mem_walk hstep]
    exact expectation_eq_payload_iff step.1.reading
  · obtain ⟨last, hget⟩ := Classifier.exists_getLast?_walk delimiter markup
    refine ⟨last, hget, ?_, ?_⟩
    · -- the last token is no directive, so it leaves a directive expected
      rw [Classifier.expectation_of_mem_walk (List.mem_of_getLast? hget), ← ne_payload_iff, ne_eq,
        expectation_eq_payload_iff]
      rw [List.getLast?_eq_getElem?] at hget
      simp only [paint?, start, hget, Option.bind_some] at hlast
      simp [hlast]
    · exact Classifier.next?_of_getLast?_walkAtMost (Cursor.ahead_start delimiter markup)
        (length_tokens_le delimiter markup) hget
  · intro i hi
    rw [hpaint] at hi ⊢
    exact paintAt?_succ_of_isSome hi
  · rw [hpaint]
    exact paintAt?_zero delimiter markup

end ColorMarkup.Markup

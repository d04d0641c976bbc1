import ColorMarkup.Proofs.Classifier
import ColorMarkup.Proofs.Directive

/-!
# Markup texts side by side

Two markup texts with a separator between them.  At the seam the last token of the first text, the
separator and the first token of the second make one token.  If the separator holds a scalar that is
in no directive, the new token is no directive, as little as the two edge tokens were; so all other
tokens are read as they were in their own text.

* `classifiedAfterFirst_append` and `classifiedAfterFirst_cons` follow the reading through a list of
  tokens, up to a token that is no directive and on from it;
* `classified_append` is the law of the seam, and `visible_append` what is seen of it.
-/

namespace ColorMarkup.Markup

variable {delimiter : Char}

/-! ## Reading a list of tokens -/

/-- Tokens that all have a delimiter on both sides, as they are read. -/
def classifiedBetween : Expectation → List Text → List (Text × Option Paint)
  | _, [] => []
  | expectation, token :: rest =>
    (token, (expectation.read token).paint?)
      :: classifiedBetween (expectation.read token).expectation rest

/-- The tokens after the first, as they are read; the last of them is shown. -/
def classifiedAfterFirst (expectation : Expectation) (rest : List Text) :
    List (Text × Option Paint) :=
  (itemsAfterFirst expectation rest).map Item.classified

@[simp] theorem classifiedAfterFirst_nil (expectation : Expectation) :
    classifiedAfterFirst expectation [] = [] := rfl

@[simp] theorem classifiedAfterFirst_singleton (expectation : Expectation) (last : Text) :
    classifiedAfterFirst expectation [last] = [(last, none)] := rfl

theorem classifiedAfterFirst_cons_cons (expectation : Expectation) (token following : Text)
    (rest : List Text) :
    classifiedAfterFirst expectation (token :: following :: rest)
      = (token, (expectation.read token).paint?)
        :: classifiedAfterFirst (expectation.read token).expectation (following :: rest) := rfl

theorem classified_of_tokens {markup first : Text} {rest : List Text}
    (h : tokens delimiter markup = first :: rest) :
    classified delimiter markup = (first, none) :: classifiedAfterFirst .directive rest := by
  rw [classified, items, h]
  rfl

/-- As long as more tokens follow, every token is one between delimiters. -/
theorem classifiedAfterFirst_append (expectation : Expectation) (a : List Text) {b : List Text}
    (hb : b ≠ []) :
    classifiedAfterFirst expectation (a ++ b)
      = classifiedBetween expectation a ++ classifiedAfterFirst (expectation.after a) b := by
  induction a generalizing expectation with
  | nil => rfl
  | cons token a ih =>
    obtain ⟨following, rest, hrest⟩ :=
      List.exists_cons_of_ne_nil (List.append_ne_nil_of_right_ne_nil a hb)
    rw [List.cons_append, hrest, classifiedAfterFirst_cons_cons, ← hrest, ih]
    rfl

/-- After a token that is no directive the reading starts afresh, whatever was expected before. -/
theorem classifiedAfterFirst_cons (expectation : Expectation) {token : Text}
    (h : directive? token = none) (rest : List Text) :
    classifiedAfterFirst expectation (token :: rest)
      = (token, none) :: classifiedAfterFirst .directive rest := by
  cases rest with
  | nil => rfl
  | cons following rest =>
    have hpaint : (expectation.read token).paint? = none := by
      rw [paint?_read, h]
      exact ite_self none
    have hexpectation : (expectation.read token).expectation = .directive := by
      rw [← ne_payload_iff, ne_eq, expectation_eq_payload_iff, hpaint]
      simp
    rw [classifiedAfterFirst_cons_cons, hpaint, hexpectation]

/-- Tokens that are no directives, where a directive is expected, are all shown. -/
theorem classifiedAfterFirst_append_of_shown {shown : List Text}
    (h : ∀ token ∈ shown, directive? token = none) (rest : List Text) :
    classifiedAfterFirst .directive (shown ++ rest)
      = shown.map (fun token => (token, none)) ++ classifiedAfterFirst .directive rest := by
  induction shown with
  | nil => rfl
  | cons token shown ih =>
    have htoken : directive? token = none := h token List.mem_cons_self
    rw [List.cons_append, classifiedAfterFirst_cons _ htoken,
      ih fun other hother => h other (List.mem_cons_of_mem _ hother)]
    rfl

/-- A directive where one is expected, with the token that it colors. -/
theorem classifiedAfterFirst_directive {token : Text} {paint : Paint}
    (h : directive? token = some paint) (payload : Text) (rest : List Text) :
    classifiedAfterFirst .directive (token :: payload :: rest)
      = (token, some paint) :: (payload, none) :: classifiedAfterFirst .directive rest := by
  have hread : (Expectation.directive.read token).paint? = some paint := h
  have hexpectation : (Expectation.directive.read token).expectation = .payload := by
    rw [expectation_eq_payload_iff, hread]
    rfl
  rw [classifiedAfterFirst_cons_cons, hread, hexpectation]
  -- the payload is shown, be it the last token or not
  cases rest <;> rfl

/-- The first token needs no treatment of its own if it is no directive. -/
theorem classified_eq_of_tokens {markup first : Text} {rest : List Text}
    (h : tokens delimiter markup = first :: rest) (hfirst : directive? first = none) :
    classified delimiter markup = classifiedAfterFirst .directive (tokens delimiter markup) := by
  rw [classified_of_tokens h, h, classifiedAfterFirst_cons _ hfirst]

/-! ## The seam -/

/-- A separator: a text without the delimiter that holds a scalar which is in no directive. -/
structure Separates (delimiter : Char) (separator : Text) : Prop where
  not_mem : delimiter ∉ separator
  exists_mark : ∃ c ∈ separator, c.isAlpha = false ∧ c ≠ ':'

theorem Separates.directive?_eq_none {separator : Text} (h : Separates delimiter separator)
    (before after : Text) : directive? (before ++ (separator ++ after)) = none := by
  obtain ⟨c, hc, hletter, hcolon⟩ := h.exists_mark
  exact directive?_eq_none_of_mem (by simp [hc]) hletter hcolon

/-- The law of the seam: one token is made of the last token of the first text, the separator and
the first token of the second; all other tokens are read as in their own text. -/
theorem classified_append {separator : Text} (h : Separates delimiter separator) (a b : Text) :
    ∃ init last first rest,
      classified delimiter a = init ++ [(last, none)]
        ∧ classified delimiter b = (first, none) :: rest
        ∧ classified delimiter (a ++ (separator ++ b))
          = init ++ (last ++ (separator ++ first), none) :: rest := by
  cases hb : tokens delimiter b with
  | nil => exact absurd hb (tokens_ne_nil delimiter b)
  | cons first rest =>
    have hsep : tokens delimiter (separator ++ b) = (separator ++ first) :: rest :=
      tokens_append_of_not_mem h.not_mem hb
    cases ha : tokens delimiter a with
    | nil => exact absurd ha (tokens_ne_nil delimiter a)
    | cons start others =>
      rcases List.eq_nil_or_concat others with rfl | ⟨between, last, rfl⟩
      · -- the first text is one token, which is the first of all
        refine ⟨[], start, first, _, classified_of_tokens ha, classified_of_tokens hb, ?_⟩
        have hjoin : tokens delimiter (a ++ (separator ++ b))
            = [] ++ (start ++ (separator ++ first)) :: rest := tokens_append ha hsep
        exact classified_of_tokens hjoin
      · rw [List.concat_eq_append] at ha
        have hjoin : tokens delimiter (a ++ (separator ++ b))
            = start :: between ++ (last ++ (separator ++ first)) :: rest := tokens_append ha hsep
        rw [List.cons_append] at hjoin
        refine ⟨(start, none) :: classifiedBetween .directive between, last, first, _, ?_,
          classified_of_tokens hb, ?_⟩
        · rw [classified_of_tokens ha, classifiedAfterFirst_append _ _ (by simp)]
          simp
        · have hnone := h.directive?_eq_none last first
          rw [classified_of_tokens hjoin, classifiedAfterFirst_append _ _ (by simp),
            classifiedAfterFirst_cons _ hnone]
          simp

/-! ## What is visible -/

/-- What is visible of a token: a directive is not. -/
def shownText (token : Text × Option Paint) : Text :=
  if token.2 = none then token.1 else []

theorem visible_eq_flatMap (delimiter : Char) (markup : Text) :
    visible delimiter markup = (classified delimiter markup).flatMap shownText := by
  rw [visible, classified, List.flatMap_map]
  congr 1
  funext item
  obtain ⟨token, reading⟩ := item
  cases reading <;> rfl

/-- What is visible of two texts with a separator between them is what is visible of each, and the
separator. -/
theorem visible_append {separator : Text} (h : Separates delimiter separator) (a b : Text) :
    visible delimiter (a ++ (separator ++ b))
      = visible delimiter a ++ (separator ++ visible delimiter b) := by
  obtain ⟨init, last, first, rest, ha, hb, hjoin⟩ := classified_append h a b
  simp [visible_eq_flatMap, ha, hb, hjoin, shownText]

/-- A text without a delimiter is visible as it is. -/
theorem visible_of_not_mem {markup : Text} (h : delimiter ∉ markup) :
    visible delimiter markup = markup := by
  rw [visible_eq_flatMap, classified_of_tokens (tokens_of_not_mem h)]
  simp [shownText]

/-- The delimiter is never visible. -/
theorem not_mem_visible (delimiter : Char) (markup : Text) :
    delimiter ∉ visible delimiter markup := by
  rw [visible_eq_flatMap, List.mem_flatMap]
  rintro ⟨token, htoken, hmem⟩
  unfold shownText at hmem
  split at hmem
  · exact not_mem_of_mem_classified htoken hmem
  · exact absurd hmem List.not_mem_nil

end ColorMarkup.Markup

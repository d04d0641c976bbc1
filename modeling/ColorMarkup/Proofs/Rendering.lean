import ColorMarkup.Console.Recorder
import ColorMarkup.Proofs.Classifier
import ColorMarkup.Render

/-!
# What rendering writes

Rendering goes through the tokens of a text and changes its brush as it goes.  The brush can be left
out: a token that is shown is written in what the directive just before it sets, put onto the
defaults, and in the defaults where no directive stands before it.

* `Brush.after` and `Brush.events` are one step of the pass, `Brush.eventsOf` the whole pass, and
  `events_renderItems` says that this is what the script of a rendering does.
* `brushAt_eq` is the invariant that ties the brush to the tokens: after any number of steps the
  brush holds `spanPaint`, as no two directives stand side by side.
* `toList_play_render` is the closed form of a rendering.
-/

namespace ColorMarkup

open Markup

/-! ## One step and all steps -/

namespace Brush

/-- The brush after a token. -/
def after (brush : Brush) (token : Text × Option Paint) : Brush :=
  match token.2 with
  | some paint => brush.apply paint
  | none => brush.revert

/-- The events that a token makes. -/
def events (brush : Brush) (token : Text × Option Paint) : List Event :=
  if token.2 = none ∧ token.1 ≠ [] then [.span (brush.span token.1)] else []

/-- The events that some tokens make, one after another. -/
def eventsOf (brush : Brush) : List (Text × Option Paint) → List Event
  | [] => []
  | token :: rest => brush.events token ++ (brush.after token).eventsOf rest

theorem events_write (brush : Brush) (text : Text) :
    (brush.write text).events = brush.events (text, none) := by
  by_cases h : text = [] <;> simp [write, events, h]

theorem eventsOf_append (brush : Brush) (a b : List (Text × Option Paint)) :
    brush.eventsOf (a ++ b) = brush.eventsOf a ++ (a.foldl after brush).eventsOf b := by
  induction a generalizing brush with
  | nil => rfl
  | cons token a ih => simp [eventsOf, ih]

/-- The events of all tokens, place by place: each token is written with the brush that the tokens
before it leave behind. -/
theorem eventsOf_eq_flatten (brush : Brush) (tokens : List (Text × Option Paint)) :
    brush.eventsOf tokens
      = (tokens.mapIdx fun i token =>
          ((tokens.take i).foldl after brush).events token).flatten := by
  induction tokens generalizing brush with
  | nil => rfl
  | cons token rest ih => simp [eventsOf, ih]

end Brush

theorem events_map_record (records : List Log.Record) :
    Script.events (records.map .record) = [] := by
  induction records with
  | nil => rfl
  | cons record records ih => simp [ih]

/-- The script for some items writes what their tokens make. -/
theorem events_renderItems (brush : Brush) (items : List Item) :
    (renderItems brush items).events = brush.eventsOf (items.map Item.classified) := by
  induction items generalizing brush with
  | nil => rfl
  | cons item rest ih =>
    obtain ⟨token, reading⟩ := item
    cases reading <;>
      simp [renderItems, ih, events_map_record, Brush.events_write, Brush.eventsOf, Brush.after,
        Brush.events, Item.classified, Reading.paint?]

/-- The brush before the token at place `i` of a markup text. -/
def brushAt (config : Config) (markup : Text) (i : ℕ) : Brush :=
  ((classified config.delimiter markup).take i).foldl Brush.after (.new config)

/-- The paint in which the token at place `i` is written: what the directive just before it sets, on
the defaults, and the defaults alone if there is none. -/
def spanPaint (defaults : Paint) (tokens : List (Text × Option Paint)) : ℕ → Paint
  | 0 => defaults
  | i + 1 => ((tokens[i]?.bind Prod.snd).getD .plain).onto defaults

theorem brushAt_succ {config : Config} {markup : Text} {i : ℕ} {token : Text × Option Paint}
    (h : (classified config.delimiter markup)[i]? = some token) :
    brushAt config markup (i + 1) = (brushAt config markup i).after token := by
  unfold brushAt
  rw [List.take_add_one, h, List.foldl_append]
  rfl

/-- The brush before a token holds the paint of `spanPaint`, and the defaults to go back to. -/
theorem brushAt_eq {config : Config} {markup : Text} {i : ℕ}
    (hi : i ≤ (classified config.delimiter markup).length) :
    brushAt config markup i
      = ⟨spanPaint config.defaults (classified config.delimiter markup) i, config.defaults⟩ := by
  induction i with
  | zero => rfl
  | succ i ih =>
    have hget : (classified config.delimiter markup)[i]?
        = some (classified config.delimiter markup)[i] := List.getElem?_eq_getElem hi
    rw [brushAt_succ hget, ih (by omega), spanPaint, hget]
    cases hpaint : (classified config.delimiter markup)[i].2 with
    | none => simp [Brush.after, Brush.revert, hpaint]
    | some paint =>
      -- the token is a directive, so the one before it is none and the brush is as at the start
      have hdirective : paintAt? config.delimiter markup i = some paint := by
        simp [paintAt?, hget, hpaint]
      have hstart : spanPaint config.defaults (classified config.delimiter markup) i
          = config.defaults := by
        cases i with
        | zero => rfl
        | succ i =>
          have hbefore : paintAt? config.delimiter markup i = none := by
            by_contra hsome
            have hnone := paintAt?_succ_of_isSome (Option.isSome_iff_ne_none.2 hsome)
            simp [hdirective] at hnone
          rw [spanPaint, ← paintAt?, hbefore]
          rfl
      simp [Brush.after, Brush.apply, hpaint, hstart]

/-- The spans for the tokens that are shown, in order, each in its `spanPaint`. -/
def shownSpans (defaults : Paint) (tokens : List (Text × Option Paint)) : List Event :=
  (tokens.mapIdx fun i token =>
    if token.2 = none ∧ token.1 ≠ [] then
      [Event.span ⟨token.1, spanPaint defaults tokens i⟩]
    else []).flatten

/-- A rendering writes what the tokens of the markup make, and a line break as configured. -/
theorem events_render_eq_eventsOf (config : Config) (markup : Text) :
    (render config markup).events
      = (Brush.new config).eventsOf (classified config.delimiter markup)
        ++ if config.noNewline then [] else [.lineBreak] := by
  have hitems : (renderItems (.new config) (items config.delimiter markup)).events
      = (Brush.new config).eventsOf (classified config.delimiter markup) :=
    events_renderItems _ _
  unfold render
  cases config.noNewline <;> simp [hitems]

theorem events_render (config : Config) (markup : Text) :
    (render config markup).events
      = shownSpans config.defaults (classified config.delimiter markup)
        ++ if config.noNewline then [] else [.lineBreak] := by
  rw [events_render_eq_eventsOf, Brush.eventsOf_eq_flatten, shownSpans]
  congr 2
  apply List.ext_getElem (by simp)
  intro i hi hi'
  have hle : i ≤ (classified config.delimiter markup).length := by simp at hi; omega
  simp only [List.getElem_mapIdx]
  rw [← brushAt, brushAt_eq hle]
  rfl

/-- A span shows a token that is no directive. -/
theorem mem_shownSpans {defaults : Paint} {tokens : List (Text × Option Paint)} {span : Span}
    (h : Event.span span ∈ shownSpans defaults tokens) :
    span.text ≠ [] ∧ (span.text, none) ∈ tokens := by
  unfold shownSpans at h
  obtain ⟨events, hevents, hspan⟩ := List.mem_flatten.1 h
  obtain ⟨i, hi, rfl⟩ := List.mem_mapIdx.1 hevents
  by_cases hshown : tokens[i].2 = none ∧ tokens[i].1 ≠ []
  · rw [if_pos hshown, List.mem_singleton] at hspan
    obtain rfl := Event.span.inj hspan
    refine ⟨hshown.2, ?_⟩
    have hmem : tokens[i] ∈ tokens := List.getElem_mem hi
    rwa [← Prod.eta tokens[i], hshown.1] at hmem
  · rw [if_neg hshown] at hspan
    exact absurd hspan List.not_mem_nil

end ColorMarkup

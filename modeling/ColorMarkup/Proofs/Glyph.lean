import ColorMarkup.Proofs.Join
import ColorMarkup.Proofs.Rendering

/-!
# Painted scalars

What a reader sees of a rendering: scalar after scalar, each in its paint, and line breaks.  How the
scalars are put together to spans makes no difference to it.

* `Glyph` and `glyphs`, the view of a list of events;
* `lineGlyphs`, what is seen of one markup text, with `glyphs_render` and `glyphs_renderLines` for
  the scripts;
* `lineGlyphs_append`, the law for two texts with a separator between them: the separator, with what
  stands around it up to the next delimiters, is in the paint in which the first text ends.
-/

namespace ColorMarkup

open Markup

/-- One thing that is seen of the output. -/
inductive Glyph where
  /-- A scalar in a paint. -/
  | scalar (c : Char) (paint : Paint)
  | lineBreak
  deriving DecidableEq, Repr

/-- A text in one paint. -/
def Paint.glyphs (paint : Paint) (text : Text) : List Glyph :=
  text.map fun c => .scalar c paint

@[simp] theorem Paint.glyphs_nil (paint : Paint) : paint.glyphs [] = [] := rfl

@[simp] theorem Paint.glyphs_append (paint : Paint) (a b : Text) :
    paint.glyphs (a ++ b) = paint.glyphs a ++ paint.glyphs b :=
  List.map_append

/-- What is seen of an event. -/
def Event.glyphs : Event → List Glyph
  | .span piece => piece.paint.glyphs piece.text
  | .lineBreak => [.lineBreak]

/-- What is seen of some events. -/
def glyphs (events : List Event) : List Glyph :=
  events.flatMap Event.glyphs

@[simp] theorem glyphs_nil : glyphs [] = [] := rfl

@[simp] theorem glyphs_append (a b : List Event) : glyphs (a ++ b) = glyphs a ++ glyphs b :=
  List.flatMap_append

/-! ## One markup text -/

/-- What is seen of some tokens. -/
def Brush.glyphsOf (brush : Brush) (tokens : List (Text × Option Paint)) : List Glyph :=
  glyphs (brush.eventsOf tokens)

@[simp] theorem Brush.glyphsOf_nil (brush : Brush) : brush.glyphsOf [] = [] := rfl

theorem Brush.glyphsOf_cons (brush : Brush) (token : Text × Option Paint)
    (rest : List (Text × Option Paint)) :
    brush.glyphsOf (token :: rest)
      = brush.paint.glyphs (shownText token) ++ (brush.after token).glyphsOf rest := by
  have htoken : glyphs (brush.events token) = brush.paint.glyphs (shownText token) := by
    obtain ⟨text, paint?⟩ := token
    by_cases hshown : paint? = none
    · by_cases htext : text = []
      · simp [Brush.events, shownText, hshown, htext]
      · simp [Brush.events, Brush.span, shownText, hshown, htext, glyphs, Event.glyphs]
    · simp [Brush.events, shownText, hshown]
  rw [glyphsOf, eventsOf, glyphs_append, htoken]
  rfl

theorem Brush.glyphsOf_append (brush : Brush) (a b : List (Text × Option Paint)) :
    brush.glyphsOf (a ++ b) = brush.glyphsOf a ++ (a.foldl after brush).glyphsOf b := by
  rw [glyphsOf, eventsOf_append, glyphs_append]
  rfl

/-- Pieces that each leave the brush as it was are seen one by one. -/
theorem Brush.glyphsOf_flatMap {ι : Type} {brush : Brush} {pieces : List ι}
    {f : ι → List (Text × Option Paint)} (h : ∀ x ∈ pieces, (f x).foldl after brush = brush) :
    (pieces.flatMap f).foldl after brush = brush
      ∧ brush.glyphsOf (pieces.flatMap f) = pieces.flatMap fun x => brush.glyphsOf (f x) := by
  induction pieces with
  | nil => exact ⟨rfl, rfl⟩
  | cons x pieces ih =>
    have hx : (f x).foldl after brush = brush := h x List.mem_cons_self
    obtain ⟨hbrush, hglyphs⟩ := ih fun y hy => h y (List.mem_cons_of_mem _ hy)
    rw [List.flatMap_cons, List.foldl_append, glyphsOf_append, hx, hbrush, hglyphs]
    exact ⟨rfl, rfl⟩

/-- What is seen of a markup text, a line break after it left aside. -/
def lineGlyphs (config : Config) (markup : Text) : List Glyph :=
  (Brush.new config).glyphsOf (classified config.delimiter markup)

theorem glyphs_render (config : Config) (markup : Text) :
    glyphs (render config markup).events
      = lineGlyphs config markup ++ if config.noNewline then [] else [.lineBreak] := by
  rw [events_render_eq_eventsOf, glyphs_append, lineGlyphs, Brush.glyphsOf]
  cases config.noNewline <;> simp [glyphs, Event.glyphs]

/-- A text without a delimiter is seen as it is, in the default colors. -/
theorem lineGlyphs_of_not_mem {config : Config} {text : Text} (h : config.delimiter ∉ text) :
    lineGlyphs config text = config.defaults.glyphs text := by
  rw [lineGlyphs, classified_of_tokens (tokens_of_not_mem h)]
  simp [Brush.glyphsOf_cons, shownText, Brush.new]

/-- Tokens that are all shown leave the brush as it is at the start. -/
theorem foldl_after_map (config : Config) (shown : List Text) :
    (shown.map fun text => (text, none)).foldl Brush.after (.new config) = .new config := by
  induction shown with
  | nil => rfl
  | cons text shown ih => exact ih

/-- Tokens that are all shown, from the start on, are in the default colors. -/
theorem glyphsOf_map (config : Config) (shown : List Text) :
    (Brush.new config).glyphsOf (shown.map fun text => (text, none))
      = config.defaults.glyphs shown.flatten := by
  induction shown with
  | nil => rfl
  | cons text shown ih =>
    have hafter : (Brush.new config).after (text, none) = .new config := rfl
    rw [List.map_cons, Brush.glyphsOf_cons, hafter, ih, List.flatten_cons]
    simp [shownText, Brush.new]

/-- What is seen of several markup lines: of each what is seen of it alone, with line breaks between
them, and after the last one as configured. -/
theorem glyphs_renderLines (config : Config) {lines : List Text} (h : lines ≠ []) :
    glyphs (renderLines config lines).events
      = List.intercalate [.lineBreak] (lines.map (lineGlyphs config))
        ++ if config.noNewline then [] else [.lineBreak] := by
  induction lines with
  | nil => exact absurd rfl h
  | cons line rest ih =>
    -- the last line is rendered as configured, every other one with a line break after it
    cases rest with
    | nil =>
      rw [renderLines, glyphs_render]
      simp
    | cons following rest =>
      have hline : lineGlyphs { config with noNewline := false } line = lineGlyphs config line :=
        rfl
      rw [renderLines, Script.events_append, glyphs_append, glyphs_render, ih (by simp), hline]
      simp [List.intercalate_cons_cons]

/-! ## Two markup texts -/

/-- The paint of the last token of a markup text. -/
def lastPaint (config : Config) (markup : Text) : Paint :=
  (brushAt config markup ((classified config.delimiter markup).length - 1)).paint

/-- Two texts with a separator between them: what is seen of each stays, except that the first token
of the second text takes on the paint in which the first text ends, as the separator does. -/
theorem lineGlyphs_append {config : Config} {separator : Text}
    (h : Separates config.delimiter separator) (a b : Text) :
    ∃ first later, lineGlyphs config b = config.defaults.glyphs first ++ later
      ∧ (∃ rest, tokens config.delimiter b = first :: rest)
      ∧ lineGlyphs config (a ++ (separator ++ b))
        = lineGlyphs config a ++ (lastPaint config a).glyphs (separator ++ first) ++ later := by
  obtain ⟨init, last, first, rest, ha, hb, hjoin⟩ := classified_append h a b
  -- the token at the seam is written with the brush for the last token of the first text
  have hbrush : init.foldl Brush.after (.new config)
      = ⟨lastPaint config a, config.defaults⟩ := by
    have htake : brushAt config a init.length = init.foldl Brush.after (.new config) := by
      rw [brushAt, ha, List.take_left]
    have hle : init.length ≤ (classified config.delimiter a).length := by simp [ha]
    have hlast : lastPaint config a = (brushAt config a init.length).paint := by
      simp [lastPaint, ha]
    rw [hlast, ← htake, brushAt_eq hle]
  refine ⟨first, (Brush.new config).glyphsOf rest, ?_, ?_, ?_⟩
  · rw [lineGlyphs, hb, Brush.glyphsOf_cons]
    rfl
  · have hfst := map_fst_classified config.delimiter b
    rw [hb] at hfst
    exact ⟨rest.map Prod.fst, hfst.symm⟩
  · -- after the seam, as after the first token of the second text, the brush is as at the start
    have hafter (text : Text) :
        Brush.after ⟨lastPaint config a, config.defaults⟩ (text, none) = .new config := rfl
    rw [lineGlyphs, lineGlyphs, hjoin, ha, Brush.glyphsOf_append, Brush.glyphsOf_append, hbrush,
      Brush.glyphsOf_cons, Brush.glyphsOf_cons, hafter]
    simp [shownText]

/-- Where the first text ends in the default colors, so does the separator, and all of the second
text is seen as it is alone. -/
theorem lineGlyphs_append_of_lastPaint {config : Config} {separator a : Text}
    (h : Separates config.delimiter separator) (ha : lastPaint config a = config.defaults)
    (b : Text) :
    lineGlyphs config (a ++ (separator ++ b))
      = lineGlyphs config a ++ config.defaults.glyphs separator ++ lineGlyphs config b := by
  obtain ⟨first, later, hb, -, hjoin⟩ := lineGlyphs_append h a b
  rw [hjoin, ha, hb]
  simp

/-- A text without a delimiter ends in the default colors. -/
theorem lastPaint_of_not_mem {config : Config} {text : Text} (h : config.delimiter ∉ text) :
    lastPaint config text = config.defaults := by
  rw [lastPaint, classified_of_tokens (tokens_of_not_mem h)]
  rfl

end ColorMarkup

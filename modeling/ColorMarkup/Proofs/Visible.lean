import ColorMarkup.Proofs.Join
import ColorMarkup.Proofs.Rendering
import ColorMarkup.Show

/-!
# Text that is shown is text that is visible

A layout measures what is visible of a markup text, and rendering shows the text on another way.
The two agree: a recorder that is shown some lines has recorded as text what is visible of each of
them, with the line breaks between, and the colors have no part in it.

* `flatMap_visible_render` compares the two for one line.
* `Config.forLine` are the options for one line among others, and `events_renderLines` says that
  each line is rendered as it is alone under these.
* `events_render_of_not_mem` is what comes of a text without a delimiter, so of one that has been
  stripped of its markup.
* `text_showLines` is the law for several lines.
-/

namespace ColorMarkup

open Markup

/-! ## One line -/

/-- What the events of some tokens show is what is visible of the tokens, whatever the brush. -/
theorem Brush.flatMap_visible_eventsOf (brush : Brush) (tokens : List (Text × Option Paint)) :
    (brush.eventsOf tokens).flatMap Event.visible = tokens.flatMap shownText := by
  induction tokens generalizing brush with
  | nil => rfl
  | cons token rest ih =>
    -- an empty token makes no event, and there is nothing to be seen of it
    have htoken : (brush.events token).flatMap Event.visible = shownText token := by
      obtain ⟨text, paint?⟩ := token
      by_cases htext : text = []
      · simp [events, shownText, htext]
      · by_cases hshown : paint? = none <;>
          simp [events, shownText, span, Event.visible, htext, hshown]
    rw [eventsOf, List.flatMap_append, List.flatMap_cons, htoken, ih]

/-- What a rendering shows is what is visible of the markup. -/
theorem flatMap_visible_render (config : Config) (markup : Text) :
    (render config markup).events.flatMap Event.visible
      = visible config.delimiter markup ++ if config.noNewline then [] else ['\n'] := by
  rw [events_render_eq_eventsOf, List.flatMap_append, Brush.flatMap_visible_eventsOf,
    visible_eq_flatMap]
  cases config.noNewline <;> simp [Event.visible]

/-- A text without a delimiter is one span in the default colors, or none if it is empty. -/
theorem events_render_of_not_mem {config : Config} {text : Text} (h : config.delimiter ∉ text) :
    (render config text).events
      = (if text = [] then [] else [.span ⟨text, config.defaults⟩])
        ++ if config.noNewline then [] else [.lineBreak] := by
  rw [events_render, classified_of_tokens (tokens_of_not_mem h)]
  by_cases htext : text = [] <;> simp [shownSpans, spanPaint, htext]

/-! ## Several lines -/

/-- The options for the line at a place among `count` lines: a line break may be left out only after
the last one. -/
def Config.forLine (config : Config) (count place : ℕ) : Config :=
  { config with noNewline := config.noNewline && place + 1 == count }

/-- Each of several lines is rendered as it is alone. -/
theorem events_renderLines (config : Config) (lines : List Text) :
    (renderLines config lines).events
      = (lines.mapIdx fun place line =>
          (render (config.forLine lines.length place) line).events).flatten := by
  fun_induction renderLines config lines with
  | case1 => rfl
  | case2 last => simp [Config.forLine]
  | case3 line following rest ih =>
    have hfirst : config.forLine (line :: following :: rest).length 0
        = { config with noNewline := false } := by
      simp [Config.forLine]
    -- the places of the rest are one further, as is the number of the lines
    have hlater (place : ℕ) : config.forLine (line :: following :: rest).length (place + 1)
        = config.forLine (following :: rest).length place := by
      simp [Config.forLine]
    rw [Script.events_append, ih]
    conv_rhs => rw [List.mapIdx_cons, List.flatten_cons, hfirst]
    simp only [hlater]

/-- What is visible of several lines: of each what is visible of it alone, with a line break after
it, after the last one only as configured. -/
def visibleLines (config : Config) (lines : List Text) : Text :=
  (lines.mapIdx fun place line => visible config.delimiter line
    ++ if place + 1 < lines.length ∨ config.noNewline = false then ['\n'] else []).flatten

/-- What a rendering of several lines shows is what is visible of them. -/
theorem flatMap_visible_renderLines (config : Config) (lines : List Text) :
    (renderLines config lines).events.flatMap Event.visible = visibleLines config lines := by
  rw [visibleLines, events_renderLines, ← List.flatMap_id, List.flatMap_assoc, List.flatMap_def]
  congr 1
  apply List.ext_getElem (by simp)
  intro place hplace _
  have hlt : place < lines.length := by simpa using hplace
  -- only after the last line can the line break be missing
  have hbreak : (config.forLine lines.length place).noNewline = true
      ↔ ¬(place + 1 < lines.length ∨ config.noNewline = false) := by
    have hlast : place + 1 = lines.length ↔ ¬place + 1 < lines.length := by omega
    simp [Config.forLine, hlast, and_comm]
  simp only [List.getElem_map, List.getElem_mapIdx, id_eq, flatMap_visible_render, hbreak, ite_not]
  rfl

theorem text_showLines_eq (config : Config) (lines : List Text) :
    (showLines ({} : Recorder) config lines).console.text = visibleLines config lines := by
  rw [← flatMap_visible_renderLines, ← Recorder.toList_play]
  rfl

/-- What a recorder that is shown some lines has recorded, as text, is what is visible of the lines.
The default colors do not matter to it, and every line is recorded as it is alone.  What is visible
of a line holds no delimiter, so it is all visible, and shown again it is one span at most, in the
default colors. -/
theorem text_showLines (config : Config) (lines : List Text) :
    let report := showLines ({} : Recorder) config lines
    report.failure = none
      ∧ report.console.text = visibleLines config lines
      ∧ (showLines ({} : Recorder) config []).console = {}
      ∧ (∀ defaults, (showLines ({} : Recorder) { config with defaults } lines).console.text
        = report.console.text)
      ∧ report.console.toList
        = (lines.mapIdx fun place line => (play ({} : Recorder)
          (render (config.forLine lines.length place) line)).console.toList).flatten
      ∧ ∀ markup, let shown := visible config.delimiter markup
        config.delimiter ∉ shown
          ∧ visible config.delimiter shown = shown
          ∧ ∀ defaults noNewline,
            (play ({} : Recorder)
              (render { defaults, noNewline, delimiter := config.delimiter } shown)).console.toList
              = (if shown = [] then [] else [.span ⟨shown, defaults⟩])
                ++ if noNewline then [] else [.lineBreak] := by
  intro report
  refine ⟨?_, text_showLines_eq config lines, rfl, ?_, ?_, ?_⟩
  · obtain ⟨-, -, hfailure⟩ := Recorder.play_eq {} (renderLines config lines)
    show Option.map _ _ = none
    rw [hfailure]
    rfl
  · intro defaults
    rw [text_showLines_eq, text_showLines_eq]
    rfl
  · show (play ({} : Recorder) (renderLines config lines)).console.toList = _
    simp only [Recorder.toList_play]
    exact events_renderLines config lines
  · intro markup shown
    have hnot : config.delimiter ∉ shown := not_mem_visible config.delimiter markup
    refine ⟨hnot, visible_of_not_mem hnot, ?_⟩
    intro defaults noNewline
    rw [Recorder.toList_play]
    exact @events_render_of_not_mem ⟨defaults, noNewline, config.delimiter⟩ shown hnot

/-- A directive at the end of a line has nothing to color, and the next line is as it is alone. -/
example :
    (showLines ({} : Recorder) { noNewline := true } ["a#red#".toList, "#b".toList]).console.toList
      = [.span ⟨['a'], .plain⟩, .lineBreak, .span ⟨['b'], .plain⟩] := by
  decide

end ColorMarkup

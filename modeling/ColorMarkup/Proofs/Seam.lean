import ColorMarkup.Console.Recorder
import ColorMarkup.Proofs.Glyph

/-!
# Where two markup texts meet

Two markup texts are joined by a separator, a text that can be part of no directive.  Each is
rendered as it is alone, but for the token that the end of the first, the separator and the start of
the second make up: it is written in the colors in which the first text ends.  These are the
configured ones, unless the first text ends in what a directive colors.

* `painted` is what a recorder shows of a rendering, and `painted_eq` compares it with `lineGlyphs`.
* `openDirective?` is the directive whose payload ends a text, and `lastPaint_eq` says that it
  decides the colors at the end.
* `painted_append` is the law for two texts.
-/

namespace ColorMarkup

open Markup

/-! ## What a recorder shows -/

/-- What a recorder shows of a rendered markup text: the scalars of all spans, each in its paint. -/
def painted (config : Config) (markup : Text) : List Glyph :=
  (play ({} : Recorder) (render config markup)).console.spans.flatMap fun piece =>
    piece.paint.glyphs piece.text

theorem Paint.lineBreak_not_mem_glyphs (paint : Paint) (text : Text) :
    Glyph.lineBreak ∉ paint.glyphs text := by
  simp [glyphs]

theorem filter_ne_lineBreak {shown : List Glyph} (h : Glyph.lineBreak ∉ shown) :
    shown.filter (· ≠ .lineBreak) = shown := by
  rw [List.filter_eq_self]
  intro glyph hglyph
  have hne : glyph ≠ .lineBreak := fun heq => h (heq ▸ hglyph)
  exact decide_eq_true hne

theorem Brush.lineBreak_not_mem_glyphsOf (brush : Brush) (tokens : List (Text × Option Paint)) :
    Glyph.lineBreak ∉ brush.glyphsOf tokens := by
  induction tokens generalizing brush with
  | nil => exact List.not_mem_nil
  | cons token rest ih =>
    rw [glyphsOf_cons, List.mem_append]
    exact not_or.2 ⟨brush.paint.lineBreak_not_mem_glyphs _, ih _⟩

/-- The spans of a recorder show all that is to be seen of its events but the line breaks. -/
theorem Recorder.flatMap_spans (recorder : Recorder) :
    recorder.spans.flatMap (fun piece => piece.paint.glyphs piece.text)
      = (glyphs recorder.toList).filter (· ≠ .lineBreak) := by
  rw [spans]
  induction recorder.toList with
  | nil => rfl
  | cons event rest ih =>
    cases event with
    | lineBreak => simpa [glyphs, Event.glyphs] using ih
    | span piece =>
      have hpiece : (piece.paint.glyphs piece.text).filter (· ≠ .lineBreak)
          = piece.paint.glyphs piece.text :=
        filter_ne_lineBreak (piece.paint.lineBreak_not_mem_glyphs piece.text)
      have hcons : glyphs (Event.span piece :: rest)
          = piece.paint.glyphs piece.text ++ glyphs rest := rfl
      rw [hcons, List.filter_append, hpiece, ← ih]
      rfl

/-- What a recorder shows of a markup text is what is seen of the text. -/
theorem painted_eq (config : Config) (markup : Text) :
    painted config markup = lineGlyphs config markup := by
  have hkept : (play ({} : Recorder) (render config markup)).console.toList
      = (render config markup).events := Recorder.toList_play (render config markup)
  have hline : (lineGlyphs config markup).filter (· ≠ .lineBreak) = lineGlyphs config markup :=
    filter_ne_lineBreak (Brush.lineBreak_not_mem_glyphsOf _ _)
  rw [painted, Recorder.flatMap_spans, hkept, glyphs_render, List.filter_append, hline]
  split <;> simp

/-! ## The end of a text -/

/-- The directive whose payload is the last token of a markup text, if it is one. -/
def openDirective? (delimiter : Char) (markup : Text) : Option Paint :=
  match (items delimiter markup).reverse with
  | _ :: before :: _ => before.reading.paint?
  | _ => none

/-- The colors of the last token of a markup text: what its directive sets, if it is the payload of
one, and the configured colors for the rest. -/
def endPaint (config : Config) (markup : Text) : Paint :=
  match openDirective? config.delimiter markup with
  | none => config.defaults
  | some directive => directive.onto config.defaults

theorem lastPaint_eq (config : Config) (markup : Text) :
    lastPaint config markup = endPaint config markup := by
  have hle : (classified config.delimiter markup).length - 1
      ≤ (classified config.delimiter markup).length := Nat.sub_le _ 1
  rw [lastPaint, brushAt_eq hle]
  unfold endPaint openDirective? classified
  -- the item before the last one, if there is one, is the only one that counts
  rcases List.eq_nil_or_concat (items config.delimiter markup) with hitems | ⟨init, last, hitems⟩
  · rw [hitems]
    rfl
  · rw [hitems, List.concat_eq_append]
    rcases List.eq_nil_or_concat init with rfl | ⟨init, before, rfl⟩
    · rfl
    · rw [List.concat_eq_append]
      cases hpaint : before.reading.paint? <;> simp [spanPaint, Item.classified, hpaint]

/-! ## Two texts -/

/-- Two markup texts with a separator between them are rendered as each of them is, except that the
separator and the second text up to its first delimiter are in the colors in which the first text
ends.  What is visible of them is what is visible of each, with the separator between.  Where the
first text ends in no payload, no color is carried over. -/
theorem painted_append {config : Config} {separator : Text}
    (h : Separates config.delimiter separator) (a b : Text) :
    let start := b.takeWhile (· != config.delimiter)
    painted config (a ++ separator ++ b)
        = painted config a ++ (endPaint config a).glyphs (separator ++ start)
          ++ (painted config b).drop start.length
      ∧ visible config.delimiter (a ++ separator ++ b)
        = visible config.delimiter a ++ separator ++ visible config.delimiter b
      ∧ (openDirective? config.delimiter a = none →
        painted config (a ++ separator ++ b)
          = painted config a ++ config.defaults.glyphs separator ++ painted config b) := by
  intro start
  obtain ⟨first, later, hb, ⟨rest, htokens⟩, hjoin⟩ := lineGlyphs_append h a b
  obtain rfl : start = first := takeWhile_of_tokens htokens
  have hlength : (config.defaults.glyphs start).length = start.length := List.length_map _
  simp only [painted_eq, List.append_assoc]
  refine ⟨?_, visible_append h a b, ?_⟩
  · rw [hjoin, hb, lastPaint_eq, ← hlength, List.drop_left, List.append_assoc]
  · intro hclosed
    have hend : lastPaint config a = config.defaults := by
      rw [lastPaint_eq, endPaint, hclosed]
    rw [lineGlyphs_append_of_lastPaint h hend, List.append_assoc]

/-- The color of a payload goes on to the next delimiter; the color after that is as it was. -/
theorem painted_append_of_open_payload :
    let config : Config := { defaults := ⟨none, some .white⟩ }
    let a : Text := "x#red#y".toList
    let b : Text := "green#blue#z".toList
    let separator : Text := " - ".toList
    Separates config.delimiter separator
      ∧ painted config (a ++ separator ++ b)
        = (Paint.mk none (some .white)).glyphs "x".toList
          ++ (Paint.mk (some .red) (some .white)).glyphs "y - green".toList
          ++ (Paint.mk (some .blue) (some .white)).glyphs "z".toList := by
  intro config a b separator
  have hseparates : Separates config.delimiter separator :=
    ⟨by decide, '-', by decide, by decide, by decide⟩
  obtain ⟨hpainted, -, -⟩ := painted_append hseparates a b
  exact ⟨hseparates, hpainted.trans (by decide +kernel)⟩

end ColorMarkup

import ColorMarkup.Proofs.Occurrence
import ColorMarkup.Proofs.Seam

/-!
# What is seen of a highlighted field

The markup for a field is read back as it was meant: the scalars of the field are seen as they are,
those that are covered by an occurrence in the color of the highlighter and all others in the
defaults.  The text before an occurrence may look like a directive, and the markup takes such a text
apart, so that nothing of it is read as one.

* `flatten_tokens_guard` and `directive?_of_mem_tokens_guard` are what taking a text apart does;
* `classified_markup` is how the markup for a scan is read;
* `lineGlyphs_highlight`, `lastPaint_highlight` and `visible_highlight` are what is seen of it;
* `painted_highlight` puts these together, and says that they fail for every delimiter that is in
  the name of the color.
-/

namespace ColorMarkup

open Markup Highlight

namespace Highlighter

variable {highlighter : Highlighter}

/-! ## The text before an occurrence -/

/-- A text that is taken apart, cut at the delimiters. -/
private theorem tokens_apart {delimiter : Char} {text : Text} (h : delimiter ∉ text) :
    (tokens delimiter (List.intercalate [delimiter, delimiter] (text.map ([·])))).flatten = text
      ∧ ∀ token ∈ tokens delimiter (List.intercalate [delimiter, delimiter] (text.map ([·]))),
        token.length ≤ 1 := by
  induction text with
  | nil => simp [tokens_of_not_mem]
  | cons c text ih =>
    obtain ⟨hc, htext⟩ : delimiter ∉ [c] ∧ delimiter ∉ text := by simpa using h
    cases text with
    | nil => simp [tokens_of_not_mem hc]
    | cons following text =>
      obtain ⟨hflatten, hshort⟩ := ih htext
      -- between two scalars stand two delimiters, which make an empty token
      have happly : List.intercalate [delimiter, delimiter] ((c :: following :: text).map ([·]))
          = [c] ++ delimiter :: ([] ++ delimiter ::
            List.intercalate [delimiter, delimiter] ((following :: text).map ([·]))) := by
        simp [List.intercalate_cons_cons]
      rw [happly, tokens_append_delimiter_of_not_mem hc,
        tokens_append_delimiter_of_not_mem List.not_mem_nil]
      constructor
      · simpa using hflatten
      · intro token htoken
        rcases List.mem_cons.1 htoken with rfl | htoken
        · exact le_refl 1
        · rcases List.mem_cons.1 htoken with rfl | htoken
          · exact Nat.zero_le 1
          · exact hshort token htoken

/-- Nothing is lost of a text before an occurrence. -/
theorem flatten_tokens_guard {text : Text} (h : highlighter.delimiter ∉ text) :
    (tokens highlighter.delimiter (highlighter.guard text)).flatten = text := by
  unfold guard
  split
  · exact (tokens_apart h).1
  · simp [tokens_of_not_mem h]

/-- Nothing of a text before an occurrence is read as a directive. -/
theorem directive?_of_mem_tokens_guard {text token : Text} (h : highlighter.delimiter ∉ text)
    (htoken : token ∈ tokens highlighter.delimiter (highlighter.guard text)) :
    directive? token = none := by
  unfold guard at htoken
  split at htoken
  · exact directive?_eq_none_of_length_le ((tokens_apart h).2 token htoken)
  · next hnot =>
    rw [tokens_of_not_mem h, List.mem_singleton] at htoken
    rw [htoken]
    simpa using hnot

/-! ## The markup for a scan -/

/-- How the markup for an occurrence and the text before it is read. -/
def readHit (highlighter : Highlighter) (hit : Hit) : List (Text × Option Paint) :=
  (tokens highlighter.delimiter (highlighter.guard hit.before)).map (fun token => (token, none))
    ++ [(highlighter.color.name, some ⟨some highlighter.color, none⟩), (hit.text, none)]

theorem markup_cons (highlighter : Highlighter) (hit : Hit) (hits : List Hit) (tail : Text) :
    highlighter.markup ⟨hit :: hits, tail⟩
      = highlighter.guard hit.before ++ (highlighter.wrap hit.text
        ++ highlighter.markup ⟨hits, tail⟩) := by
  simp [markup]

theorem tokens_append_wrap (hname : highlighter.delimiter ∉ highlighter.color.name) {text : Text}
    (htext : highlighter.delimiter ∉ text) (before rest : Text) :
    tokens highlighter.delimiter (before ++ (highlighter.wrap text ++ rest))
      = tokens highlighter.delimiter before
        ++ highlighter.color.name :: text :: tokens highlighter.delimiter rest := by
  have hwrap : highlighter.wrap text ++ rest
      = highlighter.delimiter :: (highlighter.color.name ++ highlighter.delimiter ::
        (text ++ highlighter.delimiter :: rest)) := by
    simp [wrap]
  rw [hwrap, tokens_append_delimiter, tokens_append_delimiter_of_not_mem hname,
    tokens_append_delimiter_of_not_mem htext]

/-- The scalars of a scan, as those of its first hit and of the rest. -/
private theorem not_mem_cons {delimiter : Char} {hit : Hit} {hits : List Hit} {tail : Text}
    (h : delimiter ∉ Scan.whole ⟨hit :: hits, tail⟩) :
    delimiter ∉ hit.before ∧ delimiter ∉ hit.text ∧ delimiter ∉ Scan.whole ⟨hits, tail⟩ := by
  simpa [Scan.whole, not_or, and_assoc] using h

/-- The tokens of the markup for a scan, where a directive is expected of the first of them. -/
theorem classifiedAfterFirst_markup (hname : highlighter.delimiter ∉ highlighter.color.name)
    (hits : List Hit) {tail : Text} (h : highlighter.delimiter ∉ Scan.whole ⟨hits, tail⟩) :
    classifiedAfterFirst .directive
        (tokens highlighter.delimiter (highlighter.markup ⟨hits, tail⟩))
      = hits.flatMap highlighter.readHit ++ [(tail, none)] := by
  induction hits with
  | nil =>
    have htail : highlighter.delimiter ∉ tail := h
    have hmarkup : highlighter.markup ⟨[], tail⟩ = tail := rfl
    rw [hmarkup, tokens_of_not_mem htail]
    rfl
  | cons hit hits ih =>
    obtain ⟨hbefore, htext, hrest⟩ := not_mem_cons h
    have hshown : ∀ token ∈ tokens highlighter.delimiter (highlighter.guard hit.before),
        directive? token = none := fun token => directive?_of_mem_tokens_guard hbefore
    rw [markup_cons, tokens_append_wrap hname htext, classifiedAfterFirst_append_of_shown hshown,
      classifiedAfterFirst_directive (directive?_name highlighter.color), ih hrest]
    simp [readHit]

/-- How the markup for a scan is read: as the texts and the directives that it was made of. -/
theorem classified_markup (hname : highlighter.delimiter ∉ highlighter.color.name) {scan : Scan}
    (h : highlighter.delimiter ∉ scan.whole) :
    classified highlighter.delimiter (highlighter.markup scan)
      = scan.hits.flatMap highlighter.readHit ++ [(scan.tail, none)] := by
  obtain ⟨hits, tail⟩ := scan
  -- the first token is shown in any case; if it is not the only one, it is no directive anyway
  cases hits with
  | nil =>
    have htail : highlighter.delimiter ∉ tail := h
    have hmarkup : highlighter.markup ⟨[], tail⟩ = tail := rfl
    rw [hmarkup, classified_of_tokens (tokens_of_not_mem htail)]
    rfl
  | cons hit hits =>
    obtain ⟨hbefore, htext, -⟩ := not_mem_cons h
    obtain ⟨first, rest, hfirst⟩ := List.exists_cons_of_ne_nil
      (tokens_ne_nil highlighter.delimiter (highlighter.guard hit.before))
    have hdirective : directive? first = none :=
      directive?_of_mem_tokens_guard hbefore (by simp [hfirst])
    have htokens : tokens highlighter.delimiter (highlighter.markup ⟨hit :: hits, tail⟩)
        = first :: (rest ++ highlighter.color.name :: hit.text
          :: tokens highlighter.delimiter (highlighter.markup ⟨hits, tail⟩)) := by
      rw [markup_cons, tokens_append_wrap hname htext, hfirst, List.cons_append]
    rw [classified_eq_of_tokens htokens hdirective, classifiedAfterFirst_markup hname _ h]

theorem classified_highlight (hname : highlighter.delimiter ∉ highlighter.color.name)
    (fragment : Text) {field : Text} (h : highlighter.delimiter ∉ field) :
    classified highlighter.delimiter (highlighter.highlight fragment field)
      = (scan fragment field).hits.flatMap highlighter.readHit
        ++ [((scan fragment field).tail, none)] := by
  apply classified_markup hname
  rw [whole_scan]
  exact h

/-! ## What is seen -/

/-- The text before a hit holds no scalar that the field does not hold. -/
theorem not_mem_before_of_mem_hits {delimiter : Char} {fragment field : Text} {hit : Hit}
    (h : delimiter ∉ field) (hhit : hit ∈ (scan fragment field).hits) :
    delimiter ∉ hit.before := by
  intro hmem
  apply h
  rw [← whole_scan fragment field, Scan.whole, List.mem_append, List.mem_flatMap]
  exact .inl ⟨hit, hhit, List.mem_append_left _ hmem⟩

/-- The scalars of the field are visible, and nothing else. -/
theorem visible_highlight (hname : highlighter.delimiter ∉ highlighter.color.name)
    (fragment : Text) {field : Text} (h : highlighter.delimiter ∉ field) :
    visible highlighter.delimiter (highlighter.highlight fragment field) = field := by
  -- of a hit, all tokens are visible but the name of the color
  have hhit : ∀ hit ∈ (scan fragment field).hits,
      (highlighter.readHit hit).flatMap shownText = hit.before ++ hit.text := by
    intro hit hmem
    have hbefore := flatten_tokens_guard (not_mem_before_of_mem_hits h hmem)
    simp [readHit, List.flatMap_map, shownText, hbefore]
  conv_rhs => rw [← whole_scan fragment field]
  rw [visible_eq_flatMap, classified_highlight hname fragment h, List.flatMap_append,
    List.flatMap_assoc, List.flatMap_congr hhit]
  simp [Scan.whole, shownText]

/-- The paint of an occurrence: the default colors, but for the foreground. -/
def occurrencePaint (highlighter : Highlighter) (config : Config) : Paint :=
  { config.defaults with foreground := some highlighter.color }

/-- What is to be seen of a field: its scalars in order, those that are covered by an occurrence of
the fragment in color. -/
def fieldGlyphs (highlighter : Highlighter) (config : Config) (fragment field : Text) :
    List Glyph :=
  field.mapIdx fun place c =>
    if Covered fragment field place then .scalar c (highlighter.occurrencePaint config)
    else .scalar c config.defaults

theorem foldl_after_readHit (highlighter : Highlighter) (config : Config) (hit : Hit) :
    (highlighter.readHit hit).foldl Brush.after (.new config) = .new config := by
  rw [readHit, List.foldl_append, foldl_after_map]
  rfl

theorem glyphsOf_readHit (config : Config) {hit : Hit} (h : highlighter.delimiter ∉ hit.before) :
    (Brush.new config).glyphsOf (highlighter.readHit hit)
      = config.defaults.glyphs hit.before
        ++ (highlighter.occurrencePaint config).glyphs hit.text := by
  rw [readHit, Brush.glyphsOf_append, foldl_after_map, glyphsOf_map, flatten_tokens_guard h]
  simp [Brush.glyphsOf_cons, shownText, Brush.after, Brush.new, Brush.apply, Paint.onto,
    occurrencePaint]

/-- The hits of a field leave the brush as it was. -/
theorem glyphsOf_hits (highlighter : Highlighter) (config : Config) (hits : List Hit) :
    (hits.flatMap highlighter.readHit).foldl Brush.after (.new config) = .new config
      ∧ (Brush.new config).glyphsOf (hits.flatMap highlighter.readHit)
        = hits.flatMap fun hit => (Brush.new config).glyphsOf (highlighter.readHit hit) := by
  apply Brush.glyphsOf_flatMap
  intro hit _
  exact foldl_after_readHit highlighter config hit

section Seen

variable {config : Config} (hshared : highlighter.delimiter = config.delimiter)
  (hname : highlighter.delimiter ∉ highlighter.color.name) (fragment : Text) {field : Text}
  (h : highlighter.delimiter ∉ field)

include hshared hname h

/-- What is seen of the markup for a field. -/
theorem lineGlyphs_highlight :
    lineGlyphs config (highlighter.highlight fragment field)
      = highlighter.fieldGlyphs config fragment field := by
  have hhit : ∀ hit ∈ (scan fragment field).hits,
      (Brush.new config).glyphsOf (highlighter.readHit hit)
        = config.defaults.glyphs hit.before
          ++ (highlighter.occurrencePaint config).glyphs hit.text := by
    intro hit hmem
    exact glyphsOf_readHit config (not_mem_before_of_mem_hits h hmem)
  obtain ⟨hbrush, hglyphs⟩ := highlighter.glyphsOf_hits config (scan fragment field).hits
  rw [lineGlyphs, ← hshared, classified_highlight hname fragment h, Brush.glyphsOf_append, hbrush,
    hglyphs, List.flatMap_congr hhit, Brush.glyphsOf_cons, fieldGlyphs, mapIdx_covered]
  simp [shownText, Brush.new, Paint.glyphs]

/-- The markup for a field ends in the default colors. -/
theorem lastPaint_highlight :
    lastPaint config (highlighter.highlight fragment field) = config.defaults := by
  obtain ⟨hbrush, -⟩ := highlighter.glyphsOf_hits config (scan fragment field).hits
  rw [lastPaint, brushAt, ← hshared, classified_highlight hname fragment h, List.length_append,
    List.length_singleton, Nat.add_sub_cancel, List.take_left, hbrush]
  rfl

end Seen

/-! ## Delimiters in the name of the color -/

/-- A field of one scalar that is the fragment. -/
theorem highlight_self (highlighter : Highlighter) (c : Char) :
    highlighter.highlight [c] [c] = highlighter.wrap [c] := by
  have hsearch : firstOccurrence? [c] [c] = some ([], [c]) := by
    simp [firstOccurrence?, startsWith, Unicode.sameLetter_self]
  have hend : scan [c] [] = ⟨[], []⟩ := scan_of_firstOccurrence?_eq_none rfl
  rw [highlight, scan_of_firstOccurrence?_eq_some (List.cons_ne_nil _ _) hsearch]
  simp [hend, markup, guard, directive?_nil]

/-- If the delimiter is in the name of the color, the name comes apart and some of it is visible. -/
theorem visible_wrap_ne (color : Color) {delimiter : Char} (h : delimiter ∈ color.name) :
    delimiter ∉ ['-']
      ∧ visible delimiter ((⟨color, delimiter⟩ : Highlighter).wrap ['-']) ≠ ['-'] := by
  have hall : (Color.all.all fun color => color.name.all fun delimiter => decide (delimiter ∉ ['-']
      ∧ visible delimiter ((⟨color, delimiter⟩ : Highlighter).wrap ['-']) ≠ ['-'])) = true := by
    decide +kernel
  simp only [List.all_eq_true, decide_eq_true_eq] at hall
  exact hall color color.mem_all delimiter h

/-- A field without the delimiter that is highlighted and rendered is seen scalar for scalar, with
the occurrences of the fragment in color; so it is the visible text of its markup.  This takes a
delimiter that is not in the name of the color: with any other one some field is not the visible
text of its markup. -/
theorem painted_highlight (color : Color) (delimiter : Char) :
    let highlighter : Highlighter := { color, delimiter }
    (delimiter ∉ color.name → ∀ defaults noNewline fragment field, delimiter ∉ field →
      let config : Config := { defaults, noNewline, delimiter }
      let markup := highlighter.highlight fragment field
      (play ({} : Recorder) (render config markup)).failure = none
        ∧ painted config markup = highlighter.fieldGlyphs config fragment field
        ∧ visible delimiter markup = field)
      ∧ (delimiter ∈ color.name → ∃ fragment field, delimiter ∉ field
        ∧ visible delimiter (highlighter.highlight fragment field) ≠ field) := by
  intro highlighter
  refine ⟨?_, ?_⟩
  · intro hname defaults noNewline fragment field hfield config markup
    have hdelimiter : highlighter.delimiter ∉ highlighter.color.name := hname
    obtain ⟨-, -, hfailure⟩ := Recorder.play_eq {} (render config markup)
    refine ⟨hfailure, ?_, visible_highlight hdelimiter fragment hfield⟩
    rw [painted_eq]
    exact lineGlyphs_highlight rfl hdelimiter fragment hfield
  · intro hname
    obtain ⟨hdash, hne⟩ := visible_wrap_ne color hname
    refine ⟨['-'], ['-'], hdash, ?_⟩
    rw [highlight_self]
    exact hne

/-- Between two occurrences stands a text that looks like a directive, and the Kelvin sign counts as
a letter k.  A delimiter that is a letter of the name does not do for every field. -/
theorem painted_highlight_of_kelvin_sign :
    let config : Config := { defaults := ⟨none, some .white⟩ }
    let field : Text := "krED\u212ax".toList
    painted config ((⟨.blue, '#'⟩ : Highlighter).highlight ['k'] field)
        = (Paint.mk (some .blue) (some .white)).glyphs "k".toList
          ++ (Paint.mk none (some .white)).glyphs "rED".toList
          ++ (Paint.mk (some .blue) (some .white)).glyphs "\u212a".toList
          ++ (Paint.mk none (some .white)).glyphs "x".toList
      ∧ ∃ fragment field, 'e' ∉ field
        ∧ visible 'e' ((⟨.red, 'e'⟩ : Highlighter).highlight fragment field) ≠ field := by
  intro config field
  obtain ⟨-, hpainted, -⟩ := (painted_highlight .blue '#').1 (by decide) config.defaults
    config.noNewline ['k'] field (by decide)
  exact ⟨hpainted.trans (by decide +kernel), (painted_highlight .red 'e').2 (by decide)⟩

end Highlighter

end ColorMarkup

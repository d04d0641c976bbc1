import ColorMarkup.Proofs.Rendering
import ColorMarkup.Proofs.Session
import ColorMarkup.Show

/-!
# What a terminal shows

A terminal knows nothing of spans: it reads scalars one by one, takes some of them for control
sequences, and shows the others with the pen that these have left it with.  What it shows of a
rendering is what was to be written, scalar by scalar in the same colors, and at the end its pen is
as clear as it was at the start.

* `Screen` is such a terminal, `Screen.step` what it does with one scalar, and `Screen.ofBytes?`
  what it makes of a stream of bytes.
* `Event.cells` is what is to be seen of an event.
* `Screen.feed_event` is the invariant: a screen that is clear is so again after every event.
* `Screen.ofBytes?_showLines` is the whole stream.
-/

namespace ColorMarkup

open Markup

/-! ## A screen -/

namespace Color

/-- The colors as a terminal numbers them, from 0 on. -/
def numbered : List Color :=
  [black, darkRed, darkGreen, darkYellow, darkBlue, darkMagenta, darkCyan, gray,
    darkGray, red, green, yellow, blue, magenta, cyan, white]

/-- The color with the number that is written in decimal digits. -/
def ofDigits? (digits : Text) : Option Color :=
  if digits ≠ [] ∧ digits.all Char.isDigit then numbered[Nat.ofDigitChars 10 digits 0]? else none

/-- The number of a color, in digits, stands for that color. -/
theorem ofDigits?_number (color : Color) : ofDigits? (.ofNat color.number) = some color := by
  cases color <;> decide

end Color

/-- A terminal, as far as it shows scalars in colors. -/
structure Screen where
  /-- The colors in which the next scalar is shown. -/
  pen : Paint := .plain
  /-- The scalars shown so far, each in its colors. -/
  cells : List (Char × Paint) := []
  /-- What has been read of a control sequence that has begun and not ended. -/
  pending : Option Text := none
  deriving DecidableEq, Repr

namespace Screen

/-- The pen after a control sequence, of which `sequence` is what stands between the escape and the
`m` at the end.  There are three of them: one for each color, and one that clears both. -/
def penAfter? (pen : Paint) (sequence : Text) : Option Paint :=
  match sequence.splitOn ';' with
  | [['[', '3', '8'], ['5'], digits] =>
    (Color.ofDigits? digits).map fun color => { pen with foreground := some color }
  | [['[', '4', '8'], ['5'], digits] =>
    (Color.ofDigits? digits).map fun color => { pen with background := some color }
  | [['[', '0']] => some .plain
  | _ => none

/-- Reads one scalar; none if it ends a control sequence that is not known. -/
def step (screen : Screen) (c : Char) : Option Screen :=
  match screen.pending with
  | none =>
    if c = '\x1b' then some { screen with pending := some [] }
    else some { screen with cells := screen.cells ++ [(c, screen.pen)] }
  | some sequence =>
    if c = 'm' then
      (penAfter? screen.pen sequence).map fun pen => { screen with pen, pending := none }
    else some { screen with pending := some (sequence ++ [c]) }

/-- Reads a text. -/
def feed (screen : Screen) (text : Text) : Option Screen :=
  text.foldlM step screen

/-- What becomes of an empty screen when it reads a stream of bytes; none if the bytes are not
UTF-8. -/
def ofBytes? (bytes : List UInt8) : Option Screen :=
  (Text.ofUtf8? bytes).bind (feed {})

/-! ## Texts and control sequences -/

theorem feed_append (screen : Screen) (a b : Text) :
    screen.feed (a ++ b) = (screen.feed a).bind fun next => next.feed b :=
  List.foldlM_append

/-- A text without an escape is shown with the pen. -/
theorem feed_of_not_mem {text : Text} (h : '\x1b' ∉ text) (pen : Paint)
    (cells : List (Char × Paint)) :
    feed ⟨pen, cells, none⟩ text = some ⟨pen, cells ++ text.map fun c => (c, pen), none⟩ := by
  induction text generalizing cells with
  | nil => simp [feed]
  | cons c rest ih =>
    obtain ⟨hc, hrest⟩ : c ≠ '\x1b' ∧ '\x1b' ∉ rest := by simpa [eq_comm] using h
    have hstep : step ⟨pen, cells, none⟩ c = some ⟨pen, cells ++ [(c, pen)], none⟩ := if_neg hc
    have hlater := ih hrest (cells ++ [(c, pen)])
    rw [feed] at hlater ⊢
    rw [List.foldlM_cons, hstep]
    simpa using hlater

/-- A control sequence that has begun is read up to its end. -/
theorem feed_pending {sequence : Text} (h : 'm' ∉ sequence) (pen : Paint)
    (cells : List (Char × Paint)) (before : Text) :
    feed ⟨pen, cells, some before⟩ sequence = some ⟨pen, cells, some (before ++ sequence)⟩ := by
  induction sequence generalizing before with
  | nil => simp [feed]
  | cons c rest ih =>
    obtain ⟨hc, hrest⟩ : c ≠ 'm' ∧ 'm' ∉ rest := by simpa [eq_comm] using h
    have hstep : step ⟨pen, cells, some before⟩ c = some ⟨pen, cells, some (before ++ [c])⟩ :=
      if_neg hc
    have hlater := ih hrest (before ++ [c])
    rw [feed] at hlater ⊢
    rw [List.foldlM_cons, hstep]
    simpa using hlater

/-- A control sequence changes the pen and shows nothing. -/
theorem feed_sequence {parameters : Text} (h : 'm' ∉ parameters) (pen : Paint)
    (cells : List (Char × Paint)) :
    feed ⟨pen, cells, none⟩ (Escape.sequence parameters)
      = (penAfter? pen ('[' :: parameters)).map fun next => ⟨next, cells, none⟩ := by
  have hescape : feed ⟨pen, cells, none⟩ ['\x1b'] = some ⟨pen, cells, some []⟩ := rfl
  have hbody : feed ⟨pen, cells, some []⟩ ('[' :: parameters)
      = some ⟨pen, cells, some ('[' :: parameters)⟩ := feed_pending (by simpa using h) pen cells []
  have hend : feed ⟨pen, cells, some ('[' :: parameters)⟩ ['m']
      = (penAfter? pen ('[' :: parameters)).map fun next => ⟨next, cells, none⟩ := by
    simp [feed, step]
  have hsequence : Escape.sequence parameters = ['\x1b'] ++ (('[' :: parameters) ++ ['m']) := rfl
  rw [hsequence, feed_append, hescape, Option.bind_some, feed_append, hbody, Option.bind_some]
  exact hend

/-- The sequence for a color sets it in the pen: a selector, the mark of the palette, the number of
the color. -/
theorem feed_colors (color : Color) (pen : Paint) (cells : List (Char × Paint)) :
    feed ⟨pen, cells, none⟩ (Escape.foreground color)
        = some ⟨{ pen with foreground := some color }, cells, none⟩
      ∧ feed ⟨pen, cells, none⟩ (Escape.background color)
        = some ⟨{ pen with background := some color }, cells, none⟩ := by
  have hletter : 'm' ∉ Text.ofNat color.number := by cases color <;> decide
  have hforeground : ('[' :: ("38;5;".toList ++ Text.ofNat color.number)).splitOn ';'
      = [['[', '3', '8'], ['5'], Text.ofNat color.number] := by cases color <;> decide
  have hbackground : ('[' :: ("48;5;".toList ++ Text.ofNat color.number)).splitOn ';'
      = [['[', '4', '8'], ['5'], Text.ofNat color.number] := by cases color <;> decide
  constructor
  · rw [Escape.foreground, feed_sequence (by simpa using hletter), penAfter?, hforeground]
    simp [Color.ofDigits?_number]
  · rw [Escape.background, feed_sequence (by simpa using hletter), penAfter?, hbackground]
    simp [Color.ofDigits?_number]

theorem feed_reset (pen : Paint) (cells : List (Char × Paint)) :
    feed ⟨pen, cells, none⟩ Escape.reset = some ⟨.plain, cells, none⟩ := by
  rw [Escape.reset, feed_sequence (by decide)]
  rfl

end Screen

/-! ## Events -/

/-- What is to be seen of an event: its scalars in its colors; a line break is a scalar in none. -/
def Event.cells : Event → List (Char × Paint)
  | .span piece => piece.text.map fun c => (c, piece.paint)
  | .lineBreak => [('\n', .plain)]

namespace Screen

/-- A color that is not set leaves the pen as it is. -/
theorem feed_colors? (color? : Option Color) (pen : Paint) (cells : List (Char × Paint)) :
    feed ⟨pen, cells, none⟩ (color?.map Escape.foreground).toList.flatten
        = some ⟨{ pen with foreground := color? <|> pen.foreground }, cells, none⟩
      ∧ feed ⟨pen, cells, none⟩ (color?.map Escape.background).toList.flatten
        = some ⟨{ pen with background := color? <|> pen.background }, cells, none⟩ := by
  cases color? with
  | none => exact ⟨rfl, rfl⟩
  | some color => simpa using feed_colors color pen cells

/-- A clear screen shows an event and is clear again, unless the event holds an escape. -/
theorem feed_event {event : Event} (h : '\x1b' ∉ event.visible) (cells : List (Char × Paint)) :
    feed ⟨.plain, cells, none⟩ event.pieces.flatten
      = some ⟨.plain, cells ++ event.cells, none⟩ := by
  cases event with
  | lineBreak => rfl
  | span piece =>
    obtain ⟨text, ⟨foreground, background⟩⟩ := piece
    -- the pen is set color by color, and is that of the span when its text comes
    have hforeground : feed ⟨.plain, cells, none⟩ (foreground.map Escape.foreground).toList.flatten
        = some ⟨⟨foreground, none⟩, cells, none⟩ := by
      simpa [Paint.plain] using (feed_colors? foreground .plain cells).1
    have hbackground :
        feed ⟨⟨foreground, none⟩, cells, none⟩ (background.map Escape.background).toList.flatten
          = some ⟨⟨foreground, background⟩, cells, none⟩ := by
      simpa using (feed_colors? background ⟨foreground, none⟩ cells).2
    have htext := feed_of_not_mem h ⟨foreground, background⟩ cells
    have hreset (shown : List (Char × Paint)) :
        feed ⟨⟨foreground, background⟩, shown, none⟩
            (if Paint.isPlain ⟨foreground, background⟩ then [] else [Escape.reset]).flatten
          = some ⟨.plain, shown, none⟩ := by
      split
      · next hplain =>
        rw [Paint.isPlain_iff.1 hplain]
        rfl
      · simpa using feed_reset ⟨foreground, background⟩ shown
    have hpieces : (Event.span ⟨text, ⟨foreground, background⟩⟩).pieces.flatten
        = (foreground.map Escape.foreground).toList.flatten
          ++ ((background.map Escape.background).toList.flatten
            ++ (text
              ++ (if Paint.isPlain ⟨foreground, background⟩ then []
                else [Escape.reset]).flatten)) := by
      simp [Event.pieces, Span.pieces]
    rw [hpieces, feed_append, hforeground, Option.bind_some, feed_append, hbackground,
      Option.bind_some, feed_append]
    exact (congrArg (Option.bind · _) htext).trans (hreset _)

/-- A clear screen shows some events and is clear again, unless one of them holds an escape. -/
theorem feed_events {events : List Event} (h : ∀ event ∈ events, '\x1b' ∉ event.visible)
    (cells : List (Char × Paint)) :
    feed ⟨.plain, cells, none⟩ (events.flatMap fun event => event.pieces.flatten)
      = some ⟨.plain, cells ++ events.flatMap Event.cells, none⟩ := by
  induction events generalizing cells with
  | nil => simp [feed]
  | cons event rest ih =>
    have hevent := feed_event (h event List.mem_cons_self) cells
    have hrest := ih (fun other hother => h other (List.mem_cons_of_mem _ hother))
      (cells ++ event.cells)
    rw [List.flatMap_cons, feed_append, hevent, Option.bind_some, hrest, List.flatMap_cons,
      List.append_assoc]

/-- The bytes of some events are the UTF-8 form of their pieces. -/
theorem flatMap_encoding (events : List Event) :
    events.flatMap Event.encoding
      = Text.utf8 (events.flatMap fun event => event.pieces.flatten) := by
  have hpieces (pieces : List Text) : pieces.flatMap Text.utf8 = Text.utf8 pieces.flatten := by
    induction pieces with
    | nil => rfl
    | cons piece rest ih => rw [List.flatMap_cons, ih, List.flatten_cons, Text.utf8_append]
  induction events with
  | nil => rfl
  | cons event rest ih =>
    rw [List.flatMap_cons, ih, ← Event.bytes_eq_encoding, Event.bytes, hpieces, List.flatMap_cons,
      Text.utf8_append]

end Screen

/-! ## Renderings -/

/-- A rendering shows scalars of its markup, line breaks apart. -/
theorem mem_of_mem_render {config : Config} {markup : Text} {event : Event}
    (h : event ∈ (render config markup).events) {c : Char} (hc : c ∈ event.visible) :
    c = '\n' ∨ c ∈ markup := by
  cases event with
  | lineBreak => exact .inl (by simpa [Event.visible] using hc)
  | span piece =>
    have hspan : Event.span piece
        ∈ shownSpans config.defaults (classified config.delimiter markup) := by
      rw [events_render] at h
      rcases List.mem_append.1 h with hspan | hbreak
      · exact hspan
      · split at hbreak <;> simp at hbreak
    have htoken := mem_tokens_of_mem_classified (mem_shownSpans hspan).2
    exact .inr (mem_of_mem_tokens htoken hc)

/-- A rendering of several lines shows scalars of the lines, line breaks apart. -/
theorem mem_of_mem_renderLines {config : Config} {lines : List Text} {event : Event}
    (h : event ∈ (renderLines config lines).events) {c : Char} (hc : c ∈ event.visible) :
    c = '\n' ∨ ∃ line ∈ lines, c ∈ line := by
  fun_induction renderLines config lines with
  | case1 => simp at h
  | case2 last =>
    rcases mem_of_mem_render h hc with hbreak | hmem
    · exact .inl hbreak
    · exact .inr ⟨last, List.mem_singleton.2 rfl, hmem⟩
  | case3 line following rest ih =>
    rw [Script.events_append, List.mem_append] at h
    rcases h with hline | hrest
    · rcases mem_of_mem_render hline hc with hbreak | hmem
      · exact .inl hbreak
      · exact .inr ⟨line, List.mem_cons_self, hmem⟩
    · rcases ih hrest with hbreak | ⟨other, hother, hmem⟩
      · exact .inl hbreak
      · exact .inr ⟨other, List.mem_cons_of_mem _ hother, hmem⟩

/-- Shown on a terminal with room for everything, markup lines without an escape come out as a
recorder records them: every scalar in its colors, every line break as a scalar in none, no control
sequence left open, and the pen as clear as at the start. -/
theorem Screen.ofBytes?_showLines (config : Config) {lines : List Text}
    (hescape : ∀ line ∈ lines, '\x1b' ∉ line) :
    let shown := showLines ({} : Terminal) config lines
    let recorded := showLines ({} : Recorder) config lines
    shown.failure = none
      ∧ Screen.ofBytes? shown.console.bytes
        = some { pen := .plain, cells := recorded.console.toList.flatMap Event.cells,
                 pending := none } := by
  intro shown recorded
  let events := (renderLines config lines).events
  have hunlimited : ({} : Terminal).sink.limit = none := rfl
  obtain ⟨hbytes, hfailure⟩ :=
    Terminal.play_of_limit_eq_none hunlimited (renderLines config lines)
  have hrecorded : recorded.console.toList = events :=
    (Recorder.play_eq {} (renderLines config lines)).1
  have hshown : shown.console.bytes
      = Text.utf8 (events.flatMap fun event => event.pieces.flatten) :=
    hbytes.trans (Screen.flatMap_encoding events)
  have hvisible : ∀ event ∈ events, '\x1b' ∉ event.visible := by
    intro event hevent hmem
    rcases mem_of_mem_renderLines hevent hmem with hbreak | ⟨line, hline, hmem⟩
    · exact absurd hbreak (by decide)
    · exact hescape line hline hmem
  refine ⟨?_, ?_⟩
  · show Option.map _ _ = none
    rw [hfailure]
    rfl
  · rw [hshown, hrecorded, Screen.ofBytes?, Text.ofUtf8?_utf8, Option.bind_some]
    exact Screen.feed_events hvisible []

/-- Text that looks like the rest of a control sequence is shown, in the colors set before it. -/
theorem Screen.ofBytes?_showLines_of_digits :
    let config : Config := { defaults := ⟨none, some .blue⟩ }
    let lines := ["#red#38;5;4m#".toList, "[0m".toList]
    (∀ line ∈ lines, '\x1b' ∉ line)
      ∧ Screen.ofBytes? (showLines ({} : Terminal) config lines).console.bytes
        = some
          { cells := "38;5;4m".toList.map (fun c => (c, ⟨some .red, some .blue⟩))
              ++ [('\n', .plain)] ++ "[0m".toList.map (fun c => (c, ⟨none, some .blue⟩))
              ++ [('\n', .plain)] } := by
  intro config lines
  have hescape : ∀ line ∈ lines, '\x1b' ∉ line := by decide
  obtain ⟨-, hscreen⟩ := Screen.ofBytes?_showLines config hescape
  exact ⟨hescape, hscreen.trans (by decide +kernel)⟩

end ColorMarkup

import Mathlib.Data.List.Basic
import ColorMarkup.Console.Recorder

/-!
# Snapshots

A snapshot writes events down, one line for each, and nothing of them is lost: no text can be taken
for another one, for the colors after it, or for a line break.

* `Text.unescape?` reads back what stands for one character between the quotes, and
  `Text.quoted_append_inj` says that a quoted text ends where it should, whatever follows it.
* `Event.snapshot_injective` and `Event.newline_not_mem_snapshot` are about the line of one event.
* `snapshot_lossless` is about all lines.
-/

namespace ColorMarkup

namespace Text

/-! ## Hexadecimal digits -/

/-- The digits, by their values. -/
def hexDigits : Text := "0123456789abcdef".toList

/-- The number that is written in hexadecimal digits. -/
def ofHex (digits : Text) : ℕ :=
  digits.foldl (fun value digit => 16 * value + hexDigits.idxOf digit) 0

theorem idxOf_digitChar : ∀ digit < 16, hexDigits.idxOf digit.digitChar = digit := by
  decide

theorem digitChar_mem_hexDigits : ∀ digit < 16, digit.digitChar ∈ hexDigits := by
  decide

/-- A number is read as it was written. -/
theorem ofHex_toDigits (n : ℕ) : ofHex (Nat.toDigits 16 n) = n := by
  induction n using Nat.strongRecOn with
  | ind n ih =>
    rw [Nat.toDigits_eq_if (by decide)]
    by_cases hsmall : n < 16
    · rw [if_pos hsmall]
      simp [ofHex, idxOf_digitChar n hsmall]
    · have hfirst : ofHex (Nat.toDigits 16 (n / 16)) = n / 16 := ih (n / 16) (by omega)
      have hlast : hexDigits.idxOf (n % 16).digitChar = n % 16 :=
        idxOf_digitChar (n % 16) (Nat.mod_lt n (by decide))
      rw [if_neg hsmall, ofHex, List.foldl_append, ← ofHex, hfirst, List.foldl_cons, hlast,
        List.foldl_nil]
      omega

theorem mem_hexDigits_of_mem_toDigits {n : ℕ} {c : Char} (h : c ∈ Nat.toDigits 16 n) :
    c ∈ hexDigits := by
  induction n using Nat.strongRecOn with
  | ind n ih =>
    rw [Nat.toDigits_eq_if (by decide)] at h
    by_cases hsmall : n < 16
    · rw [if_pos hsmall, List.mem_singleton] at h
      rw [h]
      exact digitChar_mem_hexDigits n hsmall
    · rw [if_neg hsmall, List.mem_append, List.mem_singleton] at h
      rcases h with hfirst | hlast
      · exact ih (n / 16) (by omega) hfirst
      · rw [hlast]
        exact digitChar_mem_hexDigits (n % 16) (Nat.mod_lt n (by decide))

/-! ## Quoted texts -/

/-- The character that a letter after a backslash stands for. -/
def shortEscape? : Char → Option Char
  | '0' => some '\x00'
  | 't' => some '\t'
  | 'r' => some '\r'
  | 'n' => some '\n'
  | '\\' => some '\\'
  | '"' => some '"'
  | _ => none

/-- Reads what comes after a backslash: a letter, or a code point in braces. -/
def readEscape? : Text → Option (Char × Text)
  | [] => none
  | letter :: rest =>
    if letter = 'u' then
      let digits := (rest.drop 1).takeWhile (· != '\x7d')
      some (Char.ofNat (ofHex digits), (rest.dropWhile (· != '\x7d')).drop 1)
    else (shortEscape? letter).map fun c => (c, rest)

/-- Reads what stands for one character between the quotes, and leaves the rest; none if the quotes
end here. -/
def unescape? : Text → Option (Char × Text)
  | [] => none
  | c :: rest =>
    if c = '"' then none
    else if c = '\\' then readEscape? rest
    else some (c, rest)

/-- A code point in braces is read up to the closing brace. -/
theorem unescape?_codePointEscape (c : Char) (rest : Text) :
    unescape? (codePointEscape c ++ rest) = some (c, rest) := by
  have hbrace : ∀ digit ∈ Nat.toDigits 16 c.toNat, (digit != '\x7d') = true := by
    intro digit hdigit
    have hdigits : hexDigits.all (· != '\x7d') = true := by decide
    exact List.all_eq_true.1 hdigits digit (mem_hexDigits_of_mem_toDigits hdigit)
  have htake : (Nat.toDigits 16 c.toNat ++ '\x7d' :: rest).takeWhile (· != '\x7d')
      = Nat.toDigits 16 c.toNat := by
    rw [List.takeWhile_append_of_pos hbrace]
    simp
  have hdrop : (Nat.toDigits 16 c.toNat ++ '\x7d' :: rest).dropWhile (· != '\x7d')
      = '\x7d' :: rest := by
    rw [List.dropWhile_append_of_pos hbrace]
    simp
  simp [codePointEscape, unescape?, readEscape?, htake, hdrop, ofHex_toDigits]

/-- What stands for a character between the quotes is read as that character, and no further. -/
theorem unescape?_escape (c : Char) (rest : Text) :
    unescape? (escape c ++ rest) = some (c, rest) := by
  unfold escape
  split_ifs with hnull htab hreturn hnewline hbackslash hquote hshown
  · subst hnull; rfl
  · subst htab; rfl
  · subst hreturn; rfl
  · subst hnewline; rfl
  · subst hbackslash; rfl
  · subst hquote; rfl
  · simp [unescape?, hquote, hbackslash]
  · exact unescape?_codePointEscape c rest

/-- What stands for a character never begins with the quote that ends the text. -/
theorem escape_append_ne_quote (c : Char) (rest after : Text) :
    escape c ++ rest ≠ '"' :: after := by
  intro heq
  have hread := unescape?_escape c rest
  rw [heq] at hread
  exact absurd hread (by simp [unescape?])

/-- A quoted text ends where it should, whatever follows it. -/
theorem quoted_append_inj {a b x y : Text} (h : a.quoted ++ x = b.quoted ++ y) : a = b ∧ x = y := by
  have hbody : a.flatMap escape ++ '"' :: x = b.flatMap escape ++ '"' :: y := by
    simpa [quoted] using h
  clear h
  -- by induction on the first text: both texts begin with what is read of the same quoted form
  induction a generalizing b with
  | nil =>
    cases b with
    | nil => simpa using hbody
    | cons d b =>
      rw [List.flatMap_cons, List.append_assoc] at hbody
      exact absurd hbody.symm (escape_append_ne_quote d _ x)
  | cons c a ih =>
    cases b with
    | nil =>
      rw [List.flatMap_cons, List.append_assoc] at hbody
      exact absurd hbody (escape_append_ne_quote c _ y)
    | cons d b =>
      rw [List.flatMap_cons, List.append_assoc, List.flatMap_cons, List.append_assoc] at hbody
      have hread := congrArg unescape? hbody
      rw [unescape?_escape, unescape?_escape] at hread
      obtain ⟨rfl, hrest⟩ : c = d ∧ _ := by simpa using hread
      obtain ⟨rfl, rfl⟩ := ih hrest
      exact ⟨rfl, rfl⟩

/-- A character is written without a line break. -/
theorem newline_not_mem_escape (c : Char) : '\n' ∉ escape c := by
  unfold escape
  split_ifs with hnull htab hreturn hnewline hbackslash hquote hshown
  all_goals try decide
  · simpa using Ne.symm hnewline
  · have hdigits : '\n' ∉ Nat.toDigits 16 c.toNat := by
      intro hmem
      exact absurd (mem_hexDigits_of_mem_toDigits hmem) (by decide)
    simp [codePointEscape, hdigits]

/-- A quoted text is one line. -/
theorem newline_not_mem_quoted (text : Text) : '\n' ∉ text.quoted := by
  simp [quoted, newline_not_mem_escape]

end Text

/-! ## The line of an event -/

namespace Paint

/-- A color is shown in letters, or as a dash. -/
theorem not_mem_label (color? : Option Color) : ' ' ∉ label color? ∧ '\n' ∉ label color? := by
  cases color? with
  | none => decide
  | some color => cases color <;> decide

theorem label_injective : Function.Injective label := by
  have hdash (color : Color) : color.name ≠ ['-'] := by cases color <;> decide
  intro a b h
  cases a with
  | none =>
    cases b with
    | none => rfl
    | some color => exact absurd h.symm (hdash color)
  | some color =>
    cases b with
    | none => exact absurd h (hdash color)
    | some other => rw [Color.name_injective h]

/-- How a snapshot shows both colors of a paint. -/
def labels (paint : Paint) : Text :=
  " fg=".toList ++ label paint.foreground ++ " bg=".toList ++ label paint.background

/-- Different paints are shown differently: the label of the foreground ends at a blank. -/
theorem labels_injective : Function.Injective labels := by
  rintro ⟨foreground, background⟩ ⟨otherForeground, otherBackground⟩ h
  have htake (color? : Option Color) (rest : Text) :
      (label color? ++ ' ' :: rest).takeWhile (· != ' ') = label color? := by
    rw [List.takeWhile_append_of_pos]
    · simp
    · intro c hc
      simpa using fun heq : c = ' ' => (not_mem_label color?).1 (heq ▸ hc)
  have hlabels : label foreground ++ ' ' :: ("bg=".toList ++ label background)
      = label otherForeground ++ ' ' :: ("bg=".toList ++ label otherBackground) := by
    simpa [labels] using h
  have hforeground : foreground = otherForeground := by
    have hcut := congrArg (List.takeWhile (· != ' ')) hlabels
    rw [htake, htake] at hcut
    exact label_injective hcut
  have hbackground : background = otherBackground := by
    rw [hforeground] at hlabels
    exact label_injective (by simpa using hlabels)
  rw [hforeground, hbackground]

end Paint

namespace Event

theorem snapshot_span (piece : Span) :
    (Event.span piece).snapshot = piece.text.quoted ++ piece.paint.labels := by
  obtain ⟨text, paint⟩ := piece
  unfold Event.snapshot Paint.labels
  simp only [List.append_assoc]

/-- Only the line of a span begins with a quote. -/
theorem head?_snapshot (event : Event) :
    event.snapshot.head? = some (if event = .lineBreak then '<' else '"') := by
  cases event with
  | lineBreak => rfl
  | span piece => rfl

theorem snapshot_ne_nil (event : Event) : event.snapshot ≠ [] := by
  rw [ne_eq, ← List.head?_eq_none_iff, head?_snapshot]
  exact Option.some_ne_none _

/-- Different events have different lines. -/
theorem snapshot_injective : Function.Injective Event.snapshot := by
  intro a b h
  have hhead := congrArg List.head? h
  rw [head?_snapshot, head?_snapshot] at hhead
  cases a with
  | lineBreak =>
    cases b with
    | lineBreak => rfl
    | span other => simp at hhead
  | span piece =>
    cases b with
    | lineBreak => simp at hhead
    | span other =>
      obtain ⟨text, paint⟩ := piece
      obtain ⟨otherText, otherPaint⟩ := other
      rw [snapshot_span, snapshot_span] at h
      obtain ⟨rfl, hlabels⟩ : text = otherText ∧ paint.labels = otherPaint.labels :=
        Text.quoted_append_inj h
      rw [Paint.labels_injective hlabels]

/-- The line of an event is one line. -/
theorem newline_not_mem_snapshot (event : Event) : '\n' ∉ event.snapshot := by
  cases event with
  | span piece =>
    simp [snapshot_span, Text.newline_not_mem_quoted, Paint.labels, Paint.not_mem_label]
  | lineBreak => decide

end Event

/-! ## All lines -/

/-- A snapshot, cut into lines, is the lines of the events. -/
theorem splitOn_snapshot {events : List Event} (h : events ≠ []) :
    (snapshot events).splitOn '\n' = events.map Event.snapshot := by
  apply List.splitOn_intercalate
  · intro line hline
    obtain ⟨event, -, rfl⟩ := List.mem_map.1 hline
    exact event.newline_not_mem_snapshot
  · simpa using h

theorem snapshot_eq_nil_iff {events : List Event} : snapshot events = [] ↔ events = [] := by
  constructor
  · intro hsnapshot
    by_contra hne
    have hlines := splitOn_snapshot hne
    cases events with
    | nil => exact hne rfl
    | cons event rest =>
      rw [hsnapshot, List.splitOn_nil] at hlines
      exact event.snapshot_ne_nil (by simpa using (List.cons.inj hlines).1.symm)
  · rintro rfl
    rfl

/-- A snapshot loses nothing of the events, and has exactly one line for each of them. -/
theorem snapshot_lossless :
    (∀ a b : List Event, snapshot a = snapshot b → a = b)
      ∧ ∀ events : List Event, events ≠ [] →
        (snapshot events).splitOn '\n' = events.map Event.snapshot
          ∧ ((snapshot events).splitOn '\n').length = events.length := by
  constructor
  · intro a b h
    by_cases ha : a = []
    · have hb : snapshot b = [] := by rw [← h, ha]; rfl
      rw [ha, snapshot_eq_nil_iff.1 hb]
    · have hb : b ≠ [] := by
        rintro rfl
        exact ha (snapshot_eq_nil_iff.1 h)
      have hlines : a.map Event.snapshot = b.map Event.snapshot := by
        rw [← splitOn_snapshot ha, ← splitOn_snapshot hb, h]
      exact List.map_injective_iff.2 Event.snapshot_injective hlines
  · intro events hne
    have hlines := splitOn_snapshot hne
    exact ⟨hlines, by rw [hlines, List.length_map]⟩

/-- A text that looks like the rest of its line and like a line break, an empty text, and a text of
a backslash, a control and a combining accent. -/
theorem snapshot_lossless_of_imitations :
    let events : List Event :=
      [.span ⟨"a\" fg=red bg=-\n<newline>".toList, .plain⟩, .lineBreak,
        .span ⟨[], ⟨some .red, none⟩⟩, .span ⟨['\\', '\x00', '\u0301'], ⟨none, some .blue⟩⟩]
    snapshot events
        = ("\"a\\\" fg=red bg=-\\n<newline>\" fg=- bg=-\n<newline>\n\"\" fg=red bg=-\n"
          ++ "\"\\\\\\0\\u\x7b301\x7d\" fg=- bg=blue").toList
      ∧ ((snapshot events).splitOn '\n').length = 4
      ∧ ∀ other, snapshot other = snapshot events → other = events := by
  intro events
  have hlines := snapshot_lossless.2 events (by decide)
  refine ⟨by decide +kernel, hlines.2, ?_⟩
  intro other hother
  exact snapshot_lossless.1 other events hother

end ColorMarkup

import ColorMarkup.Highlight
import ColorMarkup.Markup.Token

/-!
# Highlighting step by step

`scan` cuts a field at its occurrences of a fragment all at once.  A marker goes through the field
once and writes the markup on its way.  It knows its places as bytes of the field, and an occurrence
may have more bytes than the fragment, or fewer.  This file holds

* `Text.takeBytes?` and `Text.slice?`, which cut a text at bytes;
* `Highlight.matchBytes?`, the bytes of an occurrence;
* `Marker`, with `Marker.next?`, one step, and `Marker.finish?`, all steps to the end;
* `Highlighter.mark?`, the markup that comes of this.
-/

namespace ColorMarkup

/-! ## Cutting at bytes -/

namespace Text

/-- The first `count` bytes of a text; none if it has fewer, or if the cut would part the bytes of
one scalar. -/
def takeBytes? : Nat → Text → Option Text
  | 0, _ => some []
  | _ + 1, [] => none
  | count + 1, c :: rest =>
    if c.utf8Size ≤ count + 1 then (takeBytes? (count + 1 - c.utf8Size) rest).map (c :: ·) else none

/-- Taking the bytes of a first part gives that part. -/
theorem takeBytes?_byteLength_append (start rest : Text) :
    takeBytes? start.byteLength (start ++ rest) = some start := by
  induction start with
  | nil => simp [takeBytes?]
  | cons c start ih =>
    have hpos : 0 < c.utf8Size := c.utf8Size_pos
    obtain ⟨n, hn⟩ : ∃ n, c.utf8Size + byteLength start = n + 1 :=
      ⟨c.utf8Size + byteLength start - 1, by omega⟩
    rw [byteLength_cons, hn, List.cons_append, takeBytes?, ← hn, if_pos (by omega),
      Nat.add_sub_cancel_left, ih, Option.map_some]

/-- The text from one byte up to another, which must not come before it. -/
def slice? (text : Text) (start stop : Nat) : Option Text :=
  if start ≤ stop then (text.dropBytes? start).bind (takeBytes? (stop - start)) else none

/-- Cutting out a middle part gives that part. -/
theorem slice?_append (before middle after : Text) :
    slice? (before ++ (middle ++ after)) before.byteLength (before.byteLength + middle.byteLength)
      = some middle := by
  rw [slice?, if_pos (Nat.le_add_right _ _), dropBytes?_byteLength_append, Option.bind_some,
    Nat.add_sub_cancel_left, takeBytes?_byteLength_append]

end Text

/-! ## Matching at a place -/

namespace Highlight

/-- How many bytes the letters of `fragment` take up at the start of the text, whatever their case;
none if other letters stand there. -/
def matchBytes? : (fragment text : Text) → Option Nat
  | [], _ => some 0
  | _ :: _, [] => none
  | letter :: fragment, c :: text =>
    if Unicode.sameLetter c letter then (matchBytes? fragment text).map (c.utf8Size + ·) else none

/-- The bytes are those of as many scalars as the fragment has. -/
theorem matchBytes?_eq (fragment text : Text) :
    matchBytes? fragment text
      = if startsWith fragment text then some (Text.byteLength (text.take fragment.length))
        else none := by
  induction fragment generalizing text with
  | nil => simp [matchBytes?, startsWith]
  | cons letter fragment ih =>
    cases text with
    | nil => simp [matchBytes?, startsWith]
    | cons c text =>
      by_cases hletter : Unicode.sameLetter c letter = true
      · by_cases hstarts : startsWith fragment text = true <;>
          simp [matchBytes?, startsWith, hletter, hstarts, ih]
      · simp [matchBytes?, startsWith, hletter]

/-- A match is over no fewer than one byte. -/
theorem pos_of_matchBytes?_eq_some {fragment text : Text} {bytes : Nat}
    (hne : fragment ≠ []) (h : matchBytes? fragment text = some bytes) : 0 < bytes := by
  cases fragment with
  | nil => exact absurd rfl hne
  | cons letter fragment =>
    cases text with
    | nil => simp [matchBytes?] at h
    | cons c text =>
      rw [matchBytes?] at h
      split at h
      · obtain ⟨later, -, rfl⟩ := Option.map_eq_some_iff.1 h
        have hpos : 0 < c.utf8Size := c.utf8Size_pos
        omega
      · simp at h

end Highlight

/-! ## Going through a field -/

open Highlight (matchBytes?)

/-- How far the highlighting of a field has come. -/
structure Marker where
  /-- The byte up to which the field has been looked at. -/
  position : Nat := 0
  /-- The byte up to which the field has been copied. -/
  copied : Nat := 0
  /-- The markup so far. -/
  markup : Text := []
  deriving DecidableEq, Repr

namespace Marker

variable (highlighter : Highlighter) (fragment field : Text)

/-- One step: past an occurrence, which is copied together with the text before it, or past one
scalar.  None if a place should not be at the start of a scalar. -/
def next? (marker : Marker) : Option Marker := do
  let rest ← field.dropBytes? marker.position
  match matchBytes? fragment rest with
  | some bytes =>
    let stop := marker.position + bytes
    let before ← field.slice? marker.copied marker.position
    let found ← field.slice? marker.position stop
    return {
      position := stop
      copied := stop
      markup := marker.markup ++ highlighter.guard before ++ highlighter.wrap found }
  | none => return { marker with position := marker.position + rest.head?.elim 1 Char.utf8Size }

variable {highlighter fragment field} in
/-- A step goes forward. -/
theorem position_lt_of_next? (hne : fragment ≠ []) {marker next : Marker}
    (h : marker.next? highlighter fragment field = some next) :
    marker.position < next.position := by
  obtain ⟨rest, -, hstep⟩ := Option.bind_eq_some_iff.1 h
  split at hstep
  · next bytes hbytes =>
    obtain ⟨before, -, hbefore⟩ := Option.bind_eq_some_iff.1 hstep
    obtain ⟨text, -, htext⟩ := Option.bind_eq_some_iff.1 hbefore
    obtain rfl := Option.some.inj htext
    have hpos : 0 < bytes := Highlight.pos_of_matchBytes?_eq_some hne hbytes
    dsimp only
    omega
  · obtain rfl := Option.some.inj hstep
    cases rest with
    | nil => simp
    | cons c rest =>
      have hpos : 0 < c.utf8Size := c.utf8Size_pos
      simpa using hpos

-- the linter does not see that the name `hstep` is used to show that the recursion ends
set_option linter.unusedVariables false in
/-- All steps to the end of the field, and then what has not been copied. -/
def finish? (hne : fragment ≠ []) (marker : Marker) : Option Text :=
  if marker.position < field.byteLength then
    match hstep : marker.next? highlighter fragment field with
    | none => none
    | some next => finish? hne next
  else (field.dropBytes? marker.copied).map (marker.markup ++ ·)
termination_by field.byteLength - marker.position
decreasing_by
  have hforward : marker.position < next.position := position_lt_of_next? hne hstep
  omega

end Marker

/-- The markup for a field, made step by step.  An empty fragment leaves the field as it is. -/
def Highlighter.mark? (highlighter : Highlighter) (fragment field : Text) : Option Text :=
  if hne : fragment ≠ [] then Marker.finish? highlighter fragment field hne {}
  else some field

end ColorMarkup

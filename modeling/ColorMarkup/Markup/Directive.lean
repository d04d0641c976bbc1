import ColorMarkup.Paint
import ColorMarkup.Log

/-!
# Directives

A token is a directive if it consists of a color name, or of two with a colon between them: the
first sets the foreground, the second the background.  A name that names no color sets nothing, and
a token whose names set nothing is no directive.  This file holds

* `names?`, the names in a token that has the form of a directive;
* `Reading`, what a token turned out to be, and `Reading.of`, which reads one;
* `directive?`, the paint of a token that is a directive.
-/

namespace ColorMarkup.Markup

/-- The one or two names in a token that has the form of a directive: runs of ASCII letters, with a
colon between them if there are two. -/
def names? (token : Text) : Option (Text × Option Text) :=
  match token.takeWhile Char.isAlpha, token.dropWhile Char.isAlpha with
  | [], _ => none
  | first, [] => some (first, none)
  | first, mark :: second =>
    if mark = ':' ∧ second ≠ [] ∧ second.all Char.isAlpha then some (first, some second) else none

/-- What a token turned out to be. -/
inductive Reading where
  /-- Text to be shown. -/
  | text
  /-- Text to be shown that has the form of a directive and names no color. -/
  | unresolved
  /-- A directive that sets the given paint for the token after it. -/
  | directive (paint : Paint)
  deriving DecidableEq, Repr

namespace Reading

/-- Reads one token as a possible directive. -/
def of (token : Text) : Reading :=
  match names? token with
  | none => .text
  | some (first, second) =>
    let paint : Paint := ⟨Color.ofName? first, second.bind Color.ofName?⟩
    if paint.isPlain then .unresolved else .directive paint

/-- The paint that a token sets, if it was read as a directive. -/
def paint? : Reading → Option Paint
  | directive paint => some paint
  | text | unresolved => none

/-- What there is to tell about a token that was read so. -/
def records (reading : Reading) (token : Text) : List Log.Record :=
  match reading with
  | unresolved => [.unresolved token]
  | text | directive _ => []

end Reading

/-- The paint of a token that is a directive. -/
def directive? (token : Text) : Option Paint :=
  (Reading.of token).paint?

/-- A directive sets at least one of the two colors. -/
theorem not_isPlain_of_directive? {token : Text} {paint : Paint}
    (h : directive? token = some paint) : paint.isPlain = false := by
  rw [directive?, Reading.of] at h
  split at h
  · simp [Reading.paint?] at h
  · dsimp only at h
    split at h
    · simp [Reading.paint?] at h
    · next hcolored =>
      obtain rfl : _ = paint := by simpa [Reading.paint?] using h
      exact Bool.eq_false_iff.2 hcolored

end ColorMarkup.Markup

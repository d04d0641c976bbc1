import ColorMarkup.Color

/-!
# Paint

A paint says which of the two colors of written text it sets.  Directives, configured defaults and
spans all carry one.
-/

namespace ColorMarkup

/-- A foreground and a background; `none` leaves that color as it is. -/
structure Paint where
  foreground : Option Color := none
  background : Option Color := none
  deriving DecidableEq, Repr

namespace Paint

/-- The paint that sets nothing. -/
def plain : Paint := {}

/-- Whether the paint sets neither color. -/
def isPlain (paint : Paint) : Bool :=
  paint.foreground.isNone && paint.background.isNone

/-- The paint that sets what `top` sets and leaves the rest to `base`. -/
def onto (top base : Paint) : Paint :=
  { foreground := top.foreground <|> base.foreground
    background := top.background <|> base.background }

@[simp] theorem plain_onto (base : Paint) : plain.onto base = base := rfl

theorem isPlain_iff {paint : Paint} : paint.isPlain = true ↔ paint = plain := by
  cases paint
  simp [isPlain, plain]

end Paint

end ColorMarkup

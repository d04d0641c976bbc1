import Mathlib.Data.List.TakeWhile
import ColorMarkup.Markup.Directive

/-!
# Tokens that are no directives

A token with a scalar that is neither an ASCII letter nor a colon is text, and so is a token of one
scalar or of none: no color has a name so short.
-/

namespace ColorMarkup

theorem Unicode.length_lower_le (c : Char) : (Unicode.lower c).length ≤ 2 := by
  unfold Unicode.lower
  split
  · simp
  · split <;> simp

theorem Color.three_le_length_name (color : Color) : 3 ≤ color.name.length := by
  cases color <;> decide

/-- One scalar names no color. -/
theorem Color.ofName?_singleton (c : Char) : Color.ofName? [c] = none := by
  rw [Option.eq_none_iff_forall_ne_some]
  intro color hcolor
  have hname := congrArg List.length (Color.ofName?_eq_some_iff.1 hcolor)
  have hlower := Unicode.length_lower_le c
  have hlength := color.three_le_length_name
  simp only [Unicode.lowercase, List.flatMap_cons, List.flatMap_nil, List.append_nil] at hname
  omega

namespace Markup

/-- A token that has the form of a directive is made of letters and colons. -/
theorem isAlpha_or_eq_of_names? {token : Text} {names : Text × Option Text}
    (h : names? token = some names) {c : Char} (hc : c ∈ token) :
    c.isAlpha = true ∨ c = ':' := by
  have hfirst : ∀ c ∈ token.takeWhile Char.isAlpha, c.isAlpha = true := fun c hc =>
    List.mem_takeWhile_imp hc
  have hcut : token.takeWhile Char.isAlpha ++ token.dropWhile Char.isAlpha = token :=
    List.takeWhile_append_dropWhile
  rw [← hcut, List.mem_append] at hc
  cases hrest : token.dropWhile Char.isAlpha with
  | nil =>
    rw [hrest] at hc
    exact .inl (hfirst c (by simpa using hc))
  | cons mark second =>
    rw [hrest, List.mem_cons] at hc
    rw [names?, hrest] at h
    split at h
    · exact absurd h (by simp)
    · next hnil _ => exact absurd hnil (by simp)
    · next hcons _ =>
      obtain ⟨rfl, rfl⟩ := List.cons.inj hcons
      split at h
      · next hform =>
        obtain ⟨hmark, -, hsecond⟩ := hform
        rcases hc with hc | rfl | hc
        · exact .inl (hfirst c hc)
        · exact .inr hmark
        · exact .inl (List.all_eq_true.1 hsecond c hc)
      · exact absurd h (by simp)

/-- A token with any other scalar in it is no directive. -/
theorem directive?_eq_none_of_mem {token : Text} {c : Char} (hc : c ∈ token)
    (hletter : c.isAlpha = false) (hcolon : c ≠ ':') : directive? token = none := by
  have hnames : names? token = none := by
    rw [Option.eq_none_iff_forall_ne_some]
    intro names hnames
    rcases isAlpha_or_eq_of_names? hnames hc with h | h
    · exact absurd (hletter.symm.trans h) (by decide)
    · exact hcolon h
  rw [directive?, Reading.of, hnames]
  rfl

theorem directive?_nil : directive? [] = none := rfl

theorem directive?_singleton (c : Char) : directive? [c] = none := by
  unfold directive? Reading.of names?
  by_cases hletter : c.isAlpha
  · simp [hletter, Color.ofName?_singleton, Paint.isPlain, Reading.paint?]
  · simp [hletter, Reading.paint?]

/-- A token of at most one scalar is no directive. -/
theorem directive?_eq_none_of_length_le {token : Text} (h : token.length ≤ 1) :
    directive? token = none := by
  cases token with
  | nil => exact directive?_nil
  | cons c rest =>
    obtain rfl : rest = [] := by simpa using h
    exact directive?_singleton c

/-- The name of a color is a directive for it. -/
theorem directive?_name (color : Color) : directive? color.name = some ⟨some color, none⟩ := by
  cases color <;> decide

end Markup

end ColorMarkup

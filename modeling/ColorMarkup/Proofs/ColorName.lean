import ColorMarkup.Color
import ColorMarkup.Proofs.Lowercase
import ColorMarkup.Proofs.Trim

/-!
# Which texts name a color

A text names a color if it spells the name of the color, each letter small or capital; a k may also
be the Kelvin sign, which has the same small letter.  A setting names a color if it spells one
between white space, and a setting that does not is reported as it stands.

* `Color.Spells` and `Color.SpellsWithin` say what these texts are.
* `Color.named_iff_spells` says that they are the texts that are read as colors.
-/

namespace ColorMarkup

/-- An ASCII letter is no white space. -/
theorem Unicode.isWhiteSpace_of_isAlpha {c : Char} (h : c.isAlpha = true) :
    isWhiteSpace c = false := by
  rw [isAlpha_iff, isUpper_iff, isLower_iff] at h
  simp [isWhiteSpace, whiteSpaceIntervals]
  omega

theorem Unicode.StandsFor.isWhiteSpace_eq_false {c letter : Char} (h : StandsFor c letter)
    (hletter : letter.isLower = true) : isWhiteSpace c = false := by
  rcases h with rfl | rfl | ⟨-, rfl⟩
  · exact isWhiteSpace_of_isAlpha (isAlpha_of_isLower hletter)
  · exact isWhiteSpace_of_isAlpha (isAlpha_toUpper_of_isLower hletter)
  · decide

namespace Color

/-! ## Spelling -/

theorem isLower_of_mem_name (color : Color) : ∀ letter ∈ color.name, letter.isLower = true := by
  have hall : color.name.all Char.isLower = true := by cases color <;> rfl
  exact List.all_eq_true.1 hall

/-- The text spells the name of the color: it has as many scalars, and each of them stands for the
letter in its place. -/
def Spells (text : Text) (color : Color) : Prop :=
  List.Forall₂ Unicode.StandsFor text color.name

/-- The text spells the name of the color with any white space before it and after it. -/
def SpellsWithin (text : Text) (color : Color) : Prop :=
  ∃ before name after : Text, text = before ++ (name ++ after)
    ∧ (∀ c ∈ before, Unicode.isWhiteSpace c = true)
    ∧ (∀ c ∈ after, Unicode.isWhiteSpace c = true)
    ∧ Spells name color

/-- No white space is needed to spell a name. -/
theorem Spells.isWhiteSpace_eq_false {text : Text} {color : Color} (h : Spells text color) :
    ∀ c ∈ text, Unicode.isWhiteSpace c = false := by
  intro c hc
  obtain ⟨i, hi, rfl⟩ := List.getElem_of_mem hc
  have hname : i < color.name.length := h.length_eq ▸ hi
  have hstands : Unicode.StandsFor text[i] color.name[i] := List.Forall₂.get h hi hname
  exact hstands.isWhiteSpace_eq_false (color.isLower_of_mem_name _ (List.getElem_mem hname))

/-! ## Reading -/

/-- A text names a color if it spells its name. -/
theorem ofName?_eq_some_iff_spells {text : Text} {color : Color} :
    ofName? text = some color ↔ Spells text color := by
  rw [ofName?_eq_some_iff, Unicode.lowercase_eq_iff color.isLower_of_mem_name, Spells]

/-- What is left of a setting when it is trimmed spells a name if the setting does so between white
space. -/
theorem spells_trim_iff {text : Text} {color : Color} :
    Spells text.trim color ↔ SpellsWithin text color := by
  constructor
  · intro h
    obtain ⟨before, after, htext, hbefore, hafter⟩ := text.exists_eq_append_trim
    exact ⟨before, text.trim, after, htext, hbefore, hafter, h⟩
  · rintro ⟨before, name, after, rfl, hbefore, hafter, h⟩
    rwa [Text.trim_append hbefore h.isWhiteSpace_eq_false hafter]

theorem parse_eq_ok_iff {text : Text} {color : Color} :
    parse text = .ok color ↔ SpellsWithin text color := by
  rw [← spells_trim_iff, ← ofName?_eq_some_iff_spells, parse]
  cases ofName? text.trim <;> simp

theorem parse_eq_error_iff {text : Text} {unknown : Unknown} :
    parse text = .error unknown ↔ unknown.text = text ∧ ∀ color, ¬SpellsWithin text color := by
  simp only [← spells_trim_iff, ← ofName?_eq_some_iff_spells, ← Option.eq_none_iff_forall_ne_some,
    parse]
  obtain ⟨given⟩ := unknown
  cases ofName? text.trim <;> simp [eq_comm]

/-- A text names a color if it spells its name, and no other text does, whatever small letter a
capital sigma in it may have.  A setting names a color if it spells its name within white space, and
every other setting is reported, with all of its text. -/
theorem named_iff_spells (text : Text) :
    (∀ color, ofName? text = some color ↔ Spells text color)
      ∧ (∀ lowered, Unicode.Lowercases text lowered →
          ∀ color : Color, lowered = color.name ↔ Spells text color)
      ∧ (∀ color, parse text = .ok color ↔ SpellsWithin text color)
      ∧ ∀ unknown, parse text = .error unknown
          ↔ unknown.text = text ∧ ∀ color, ¬SpellsWithin text color := by
  refine ⟨?_, ?_, ?_, ?_⟩
  · intro color
    exact ofName?_eq_some_iff_spells
  · intro lowered hlowered color
    exact hlowered.eq_iff color.isLower_of_mem_name
  · intro color
    exact parse_eq_ok_iff
  · intro unknown
    exact parse_eq_error_iff

end Color

end ColorMarkup

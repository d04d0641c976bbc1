import ColorMarkup.Text
import ColorMarkup.Unicode.Lowercase

/-!
# Colors

The sixteen console colors, their names and numbers, and the two ways in which a name is read: a
markup token names a color or does not (`Color.ofName?`), while a setting that names none is a
mistake to report (`Color.parse`).

A name is read without regard to case, in the full sense of the word: the Kelvin sign is a capital
k.
-/

namespace ColorMarkup

/-- One of the sixteen console colors, in the order of the palette. -/
inductive Color where
  | black | darkBlue | darkGreen | darkCyan | darkRed | darkMagenta | darkYellow | gray
  | darkGray | blue | green | cyan | red | magenta | yellow | white
  deriving DecidableEq, Repr

namespace Color

/-- The palette, in order. -/
def all : List Color :=
  [black, darkBlue, darkGreen, darkCyan, darkRed, darkMagenta, darkYellow, gray,
    darkGray, blue, green, cyan, red, magenta, yellow, white]

/-- The name of a color, in small letters. -/
def name : Color → Text
  | black => "black".toList
  | darkBlue => "darkblue".toList
  | darkGreen => "darkgreen".toList
  | darkCyan => "darkcyan".toList
  | darkRed => "darkred".toList
  | darkMagenta => "darkmagenta".toList
  | darkYellow => "darkyellow".toList
  | gray => "gray".toList
  | darkGray => "darkgray".toList
  | blue => "blue".toList
  | green => "green".toList
  | cyan => "cyan".toList
  | red => "red".toList
  | magenta => "magenta".toList
  | yellow => "yellow".toList
  | white => "white".toList

/-- The name with every word capitalised. -/
def title : Color → Text
  | black => "Black".toList
  | darkBlue => "DarkBlue".toList
  | darkGreen => "DarkGreen".toList
  | darkCyan => "DarkCyan".toList
  | darkRed => "DarkRed".toList
  | darkMagenta => "DarkMagenta".toList
  | darkYellow => "DarkYellow".toList
  | gray => "Gray".toList
  | darkGray => "DarkGray".toList
  | blue => "Blue".toList
  | green => "Green".toList
  | cyan => "Cyan".toList
  | red => "Red".toList
  | magenta => "Magenta".toList
  | yellow => "Yellow".toList
  | white => "White".toList

/-- The title under which a terminal knows the color; terminals have greys. -/
def terminalTitle : Color → Text
  | gray => "Grey".toList
  | darkGray => "DarkGrey".toList
  | color => color.title

/-- The number of the color in a terminal's palette: eight dark colors, then eight bright ones,
each eight in the order of the bits for red, green and blue. -/
def number : Color → Nat
  | black => 0
  | darkRed => 1
  | darkGreen => 2
  | darkYellow => 3
  | darkBlue => 4
  | darkMagenta => 5
  | darkCyan => 6
  | gray => 7
  | darkGray => 8
  | red => 9
  | green => 10
  | yellow => 11
  | blue => 12
  | magenta => 13
  | cyan => 14
  | white => 15

/-- Every color is in the palette. -/
theorem mem_all (color : Color) : color ∈ all := by
  cases color <;> decide

/-- Different colors have different names. -/
theorem name_injective {a b : Color} (h : a.name = b.name) : a = b :=
  have hall : ∀ a ∈ all, ∀ b ∈ all, a.name = b.name → a = b := by decide
  hall a (mem_all a) b (mem_all b) h

/-! ## Reading names -/

/-- The color that `name` names, in any case and without blanks around it. -/
def ofName? (name : Text) : Option Color :=
  all.find? fun color => color.name == Unicode.lowercase name

/-- A text that names a color resolves to it, and no other text does. -/
theorem ofName?_eq_some_iff {name : Text} {color : Color} :
    ofName? name = some color ↔ Unicode.lowercase name = color.name := by
  have hnamed {other : Color} (hfound : ofName? name = some other) :
      other.name = Unicode.lowercase name := by simpa using List.find?_some hfound
  refine ⟨fun hfound => (hnamed hfound).symm, fun hname => ?_⟩
  cases hfound : ofName? name with
  | none => exact absurd (List.find?_eq_none.1 hfound color (mem_all color)) (by simp [hname])
  | some other => rw [name_injective ((hnamed hfound).trans hname)]

/-- The mistake of a setting that names no color. -/
structure Unknown where
  /-- The text as it was given, with the blanks around it. -/
  text : Text
  deriving DecidableEq, Repr

/-- How the mistake is reported. -/
def Unknown.message (unknown : Unknown) : Text :=
  "unknown color name: ".toList ++ unknown.text

/-- The color that a setting names; blanks around the name do not count. -/
def parse (text : Text) : Except Unknown Color :=
  match ofName? text.trim with
  | some color => .ok color
  | none => .error ⟨text⟩

end Color

end ColorMarkup

import ColorMarkup.Proofs.ColorName
import ColorMarkup.Proofs.Directive

/-!
# Which tokens are directives

A directive is a name, or two names with a colon between them, and at least one of the names is that
of a color, in small or capital letters.

* `Reader` holds the pieces of a greedy reader that tries what may be missing, and `names?_eq_whole`
  says that `names?` reads a token so.
* `HasForm` is the form of a directive, and `names?_eq_some_iff` says that `names?` finds it.
* `directive?_map_toLower` leaves the case of the letters out of it.
* `directive?_accepts` says which tokens are directives, and what they set.
-/

namespace ColorMarkup

theorem Paint.isPlain_eq_false_iff {paint : Paint} :
    paint.isPlain = false
      ↔ (∃ color, paint.foreground = some color) ∨ ∃ color, paint.background = some color := by
  simp only [isPlain, Bool.and_eq_false_iff, Option.isNone_eq_false_iff, Option.isSome_iff_exists]

namespace Markup

/-! ## Reading piece by piece -/

/-- A reader takes something off the start of a text and leaves the rest, or it fails. -/
abbrev Reader (α : Type) :=
  Text → Option (α × Text)

namespace Reader

variable {α β : Type}

/-- Takes the longest run of ASCII letters; there must be at least one. -/
def letters : Reader Text := fun text =>
  let run := text.takeWhile Char.isAlpha
  if run = [] then none else some (run, text.dropWhile Char.isAlpha)

/-- Takes one given character. -/
def mark (expected : Char) : Reader Char
  | [] => none
  | c :: rest => if c = expected then some (c, rest) else none

/-- Takes one thing after another. -/
def pair (a : Reader α) (b : Reader β) : Reader (α × β) := fun text => do
  let (first, rest) ← a text
  let (second, rest) ← b rest
  return ((first, second), rest)

/-- Takes something that follows something else, which is not kept. -/
def preceded (a : Reader α) (b : Reader β) : Reader β := fun text =>
  (pair a b text).map fun taken => (taken.1.2, taken.2)

/-- Takes something if it is there; if not, nothing is taken at all. -/
def orNothing (a : Reader α) : Reader (Option α) := fun text =>
  match a text with
  | some (taken, rest) => some (some taken, rest)
  | none => some (none, text)

/-- What is taken of a text if that is all of it. -/
def whole (a : Reader α) (text : Text) : Option α :=
  match a text with
  | some (taken, []) => some taken
  | _ => none

end Reader

open Reader

/-- Takes a name and, if there is one, a second name with a colon before it. -/
def nameReader : Reader (Text × Option Text) :=
  pair letters (orNothing (preceded (mark ':') letters))

/-! ## The form of a directive -/

/-- A name: one ASCII letter or more. -/
structure IsName (name : Text) : Prop where
  ne_nil : name ≠ []
  isAlpha : ∀ c ∈ name, c.isAlpha = true

/-- A token that is a name, or two names with a colon between them. -/
inductive HasForm : (token first : Text) → Option Text → Prop where
  | one {first : Text} (isName : IsName first) : HasForm first first none
  | two {first second : Text} (isName : IsName first) (isName_second : IsName second) :
      HasForm (first ++ ':' :: second) first (some second)

/-- What is taken as letters is a name, and no letter comes after it. -/
theorem letters_eq_some_iff {text name rest : Text} :
    letters text = some (name, rest)
      ↔ IsName name ∧ rest.takeWhile Char.isAlpha = [] ∧ text = name ++ rest := by
  constructor
  · intro h
    obtain ⟨hne, rfl, rfl⟩ : text.takeWhile Char.isAlpha ≠ []
        ∧ text.takeWhile Char.isAlpha = name ∧ text.dropWhile Char.isAlpha = rest := by
      simpa [letters] using h
    refine ⟨⟨hne, fun _ hc => List.mem_takeWhile_imp hc⟩, ?_, ?_⟩
    · rw [List.takeWhile_eq_nil_iff]
      intro hpos
      exact List.dropWhile_get_zero_not Char.isAlpha text hpos
    · rw [List.takeWhile_append_dropWhile]
  · rintro ⟨hname, hrest, rfl⟩
    have hdrop : rest.dropWhile Char.isAlpha = rest := by
      rw [← List.nil_append (rest.dropWhile _), ← hrest, List.takeWhile_append_dropWhile]
    have htake : (name ++ rest).takeWhile Char.isAlpha = name := by
      rw [List.takeWhile_append_of_pos hname.isAlpha, hrest, List.append_nil]
    simp [letters, htake, hname.ne_nil, List.dropWhile_append_of_pos hname.isAlpha, hdrop]

/-- A colon and a name are taken whole if that is what the text is. -/
theorem preceded_eq_some_iff {text name : Text} :
    preceded (mark ':') letters text = some (name, []) ↔ IsName name ∧ text = ':' :: name := by
  cases text with
  | nil => simp [preceded, pair, mark]
  | cons c rest =>
    have hletters : letters rest = some (name, []) ↔ IsName name ∧ rest = name := by
      rw [letters_eq_some_iff, List.append_nil]
      simp
    by_cases hc : c = ':'
    · have htake : preceded (mark ':') letters (c :: rest) = letters rest := by
        cases htaken : letters rest <;> simp [preceded, pair, mark, hc, htaken]
      rw [htake, hletters]
      simp [hc]
    · simp [preceded, pair, mark, hc]

/-- After the first name, all is taken if there is nothing more, or a colon and a second name. -/
theorem orNothing_eq_some_iff {text : Text} {second : Option Text} :
    orNothing (preceded (mark ':') letters) text = some (second, [])
      ↔ second = none ∧ text = []
        ∨ ∃ name, second = some name ∧ IsName name ∧ text = ':' :: name := by
  simp only [← preceded_eq_some_iff, orNothing]
  cases htaken : preceded (mark ':') letters text with
  | none => simp [eq_comm]
  | some taken =>
    have hne : text ≠ [] := by
      rintro rfl
      exact absurd htaken (by simp [preceded, pair, mark])
    obtain ⟨name, rest⟩ := taken
    cases second <;> simp [hne, eq_comm]

/-- A token is read whole if it has the form of a directive. -/
theorem whole_nameReader_eq_some_iff {token first : Text} {second : Option Text} :
    whole nameReader token = some (first, second) ↔ HasForm token first second := by
  have hwhole : whole nameReader token = some (first, second)
      ↔ ∃ rest, letters token = some (first, rest)
        ∧ orNothing (preceded (mark ':') letters) rest = some (second, []) := by
    rw [whole, nameReader, pair]
    cases letters token with
    | none => simp
    | some taken =>
      obtain ⟨name, rest⟩ := taken
      cases hrest : orNothing (preceded (mark ':') letters) rest with
      | none => simp [hrest]
      | some taken =>
        obtain ⟨other, left⟩ := taken
        cases left <;> simp [hrest]
  simp only [hwhole, letters_eq_some_iff, orNothing_eq_some_iff]
  constructor
  · rintro ⟨rest, ⟨hfirst, -, rfl⟩, ⟨rfl, rfl⟩ | ⟨name, rfl, hname, rfl⟩⟩
    · rw [List.append_nil]
      exact .one hfirst
    · exact .two hfirst hname
  · rintro (⟨hfirst⟩ | ⟨hfirst, hsecond⟩)
    · exact ⟨[], ⟨hfirst, rfl, by simp⟩, .inl ⟨rfl, rfl⟩⟩
    · exact ⟨_, ⟨hfirst, rfl, rfl⟩, .inr ⟨_, rfl, hsecond, rfl⟩⟩

/-- The names in a token are looked for after the letters at its start. -/
theorem names?_eq_bind_letters (token : Text) :
    names? token = (letters token).bind fun taken =>
      match taken.2 with
      | [] => some (taken.1, none)
      | colon :: second =>
        if colon = ':' ∧ second ≠ [] ∧ second.all Char.isAlpha then
          some (taken.1, some second)
        else none := by
  rw [names?, letters]
  cases token.takeWhile Char.isAlpha with
  | nil => rfl
  | cons c run => cases token.dropWhile Char.isAlpha <;> rfl

/-- The names in a token are those that it is made of, and a token of another form has none. -/
theorem names?_eq_some_iff {token first : Text} {second : Option Text} :
    names? token = some (first, second) ↔ HasForm token first second := by
  have hname (name : Text) : name ≠ [] ∧ name.all Char.isAlpha = true ↔ IsName name := by
    rw [List.all_eq_true]
    exact ⟨fun h => ⟨h.1, h.2⟩, fun h => ⟨h.ne_nil, h.isAlpha⟩⟩
  simp only [names?_eq_bind_letters, Option.bind_eq_some_iff, Prod.exists, letters_eq_some_iff]
  constructor
  · rintro ⟨name, rest, ⟨hfirst, -, rfl⟩, hread⟩
    cases rest with
    | nil =>
      obtain ⟨rfl, rfl⟩ : name = first ∧ none = second := by simpa using hread
      rw [List.append_nil]
      exact .one hfirst
    | cons colon after =>
      obtain ⟨⟨rfl, hafter⟩, rfl, rfl⟩ :
          (colon = ':' ∧ after ≠ [] ∧ after.all Char.isAlpha = true)
            ∧ name = first ∧ some after = second := by
        simpa [-List.all_eq_true] using hread
      exact .two hfirst ((hname after).1 hafter)
  · rintro (hfirst | ⟨hfirst, hsecond⟩)
    · exact ⟨token, [], ⟨hfirst, rfl, (List.append_nil token).symm⟩, rfl⟩
    · exact ⟨first, _, ⟨hfirst, rfl, rfl⟩, if_pos ⟨rfl, (hname _).2 hsecond⟩⟩

/-- The names in a token are what is read of it piece by piece. -/
theorem names?_eq_whole (token : Text) : names? token = whole nameReader token := by
  apply Option.ext
  rintro ⟨first, second⟩
  rw [names?_eq_some_iff, whole_nameReader_eq_some_iff]

/-- The names that a token is made of are determined by it. -/
theorem HasForm.unique {token first other : Text} {second otherSecond : Option Text}
    (h : HasForm token first second) (hother : HasForm token other otherSecond) :
    first = other ∧ second = otherSecond := by
  have hsame := (names?_eq_some_iff.2 h).symm.trans (names?_eq_some_iff.2 hother)
  simpa using hsame

theorem HasForm.isName {token first : Text} {second : Option Text}
    (h : HasForm token first second) : IsName first := by
  cases h <;> assumption

theorem HasForm.isName_of_mem {token first : Text} {second : Option Text}
    (h : HasForm token first second) : ∀ name ∈ second, IsName name := by
  cases h with
  | one => simp
  | two _ hsecond => simpa using hsecond

/-- There is at most one colon in a token that has the form of a directive. -/
theorem HasForm.count_colon_le {token first : Text} {second : Option Text}
    (h : HasForm token first second) : token.count ':' ≤ 1 := by
  have hzero {name : Text} (hname : IsName name) : name.count ':' = 0 := by
    rw [List.count_eq_zero]
    intro hmem
    exact absurd (hname.isAlpha ':' hmem) (by decide)
  cases h with
  | one hfirst => rw [hzero hfirst]; exact Nat.zero_le 1
  | two hfirst hsecond =>
    rw [List.count_append, List.count_cons_self, hzero hfirst, hzero hsecond]

/-! ## The colors -/

/-- The name of a color in ASCII letters, in any case. -/
def NamesColor (name : Text) (color : Color) : Prop :=
  name.map Char.toLower = color.name

theorem IsName.ofName?_eq_some_iff {name : Text} (h : IsName name) {color : Color} :
    Color.ofName? name = some color ↔ NamesColor name color := by
  rw [Color.ofName?_eq_some_iff, Unicode.lowercase_of_isAlpha h.isAlpha, NamesColor]

/-- The paint that names set. -/
def paintOf (first : Text) (second : Option Text) : Paint :=
  ⟨Color.ofName? first, second.bind Color.ofName?⟩

/-- A directive sets what its names do, if that is anything. -/
theorem directive?_eq (token : Text) :
    directive? token
      = ((names? token).map fun names => paintOf names.1 names.2).filter fun paint =>
          !paint.isPlain := by
  rw [directive?, Reading.of]
  cases names? token with
  | none => rfl
  | some names =>
    dsimp only
    cases hplain : (paintOf names.1 names.2).isPlain <;>
      simp_all [paintOf, Reading.paint?, Option.filter]

theorem directive?_eq_some_iff {token : Text} {paint : Paint} :
    directive? token = some paint
      ↔ ∃ first second, HasForm token first second ∧ paintOf first second = paint
        ∧ paint.isPlain = false := by
  rw [directive?_eq, Option.filter_eq_some_iff, Option.map_eq_some_iff]
  simp only [Prod.exists, names?_eq_some_iff, Bool.not_eq_true', ← exists_and_right, and_assoc]

/-- What the names of a directive set, each its own color. -/
theorem paintOf_eq_iff {token first : Text} {second : Option Text} {paint : Paint}
    (h : HasForm token first second) :
    paintOf first second = paint
      ↔ (∀ color, paint.foreground = some color ↔ NamesColor first color)
        ∧ ∀ color, paint.background = some color ↔ ∃ name ∈ second, NamesColor name color := by
  have hfirst (color : Color) : NamesColor first color ↔ Color.ofName? first = some color :=
    h.isName.ofName?_eq_some_iff.symm
  have hsecond (color : Color) : (∃ name ∈ second, NamesColor name color)
      ↔ second.bind Color.ofName? = some color := by
    rw [Option.bind_eq_some_iff]
    refine exists_congr fun name => and_congr_right fun hname => ?_
    exact (h.isName_of_mem name hname).ofName?_eq_some_iff.symm
  simp only [hfirst, hsecond, ← Option.ext_iff, paintOf]
  obtain ⟨foreground, background⟩ := paint
  simp [eq_comm]

/-- A paint that is set by names sets something if one of them is the name of a color. -/
theorem isPlain_eq_false_iff_of_names {first : Text} {second : Option Text} {paint : Paint}
    (hforeground : ∀ color, paint.foreground = some color ↔ NamesColor first color)
    (hbackground : ∀ color,
      paint.background = some color ↔ ∃ name ∈ second, NamesColor name color) :
    paint.isPlain = false
      ↔ ∃ name ∈ first :: second.toList, ∃ color, NamesColor name color := by
  have hsecond : (∃ color, paint.background = some color)
      ↔ ∃ name ∈ second, ∃ color, NamesColor name color := by
    simp only [hbackground, ← exists_and_left]
    exact exists_comm
  simp only [Paint.isPlain_eq_false_iff, hforeground, hsecond, List.mem_cons,
    Option.mem_toList, Option.mem_def, or_and_right, exists_or, exists_eq_left]

/-! ## The case of the letters -/

/-- The case of ASCII letters makes no difference to the color that a text names. -/
theorem ofName?_map_toLower (name : Text) :
    Color.ofName? (name.map Char.toLower) = Color.ofName? name := by
  rw [Color.ofName?, Unicode.lowercase_map_toLower, Color.ofName?]

theorem paintOf_map_toLower (first : Text) (second : Option Text) :
    paintOf (first.map Char.toLower) (second.map (List.map Char.toLower))
      = paintOf first second := by
  rw [paintOf, paintOf, ofName?_map_toLower, Option.bind_map]
  simp only [Function.comp_def, ofName?_map_toLower]

theorem toLower_eq_colon_iff (c : Char) : c.toLower = ':' ↔ c = ':' := by
  apply Unicode.forall_toLower (P := fun c small => small = ':' ↔ c = ':')
  · decide +kernel
  · exact fun _ => Iff.rfl

theorem names?_map_toLower (token : Text) :
    names? (token.map Char.toLower)
      = (names? token).map fun names =>
          (names.1.map Char.toLower, names.2.map (List.map Char.toLower)) := by
  have halpha : Char.isAlpha ∘ Char.toLower = Char.isAlpha :=
    funext Unicode.isAlpha_toLower
  rw [names?, List.takeWhile_map, List.dropWhile_map, halpha, names?]
  cases token.takeWhile Char.isAlpha with
  | nil => rfl
  | cons c run =>
    cases token.dropWhile Char.isAlpha with
    | nil => rfl
    | cons mark after =>
      simp [toLower_eq_colon_iff, halpha]

/-- The case of ASCII letters makes no difference to a directive. -/
theorem directive?_map_toLower (token : Text) :
    directive? (token.map Char.toLower) = directive? token := by
  rw [directive?_eq, names?_map_toLower, Option.map_map, directive?_eq]
  simp only [Function.comp_def, paintOf_map_toLower]

/-! ## Writing -/

/-- How a directive that sets a foreground is written in small letters. -/
def written (foreground : Color) : Option Color → Text
  | none => foreground.name
  | some background => foreground.name ++ ':' :: background.name

theorem isName_name (color : Color) : IsName color.name where
  ne_nil := by
    rw [← List.length_pos_iff]
    exact Nat.lt_of_lt_of_le (by decide) color.three_le_length_name
  isAlpha c hc := Unicode.isAlpha_of_isLower (color.isLower_of_mem_name c hc)

theorem ofName?_name (color : Color) : Color.ofName? color.name = some color := by
  have hsmall : ∀ letter ∈ color.name, letter.toLower = letter := by
    intro letter hletter
    exact Unicode.toLower_of_isLower (color.isLower_of_mem_name letter hletter)
  rw [(isName_name color).ofName?_eq_some_iff, NamesColor, List.map_congr_left hsmall, List.map_id']

/-- A directive is read as it was written. -/
theorem directive?_written (foreground : Color) (background : Option Color) :
    directive? (written foreground background) = some ⟨some foreground, background⟩ := by
  rw [directive?_eq_some_iff]
  cases background with
  | none =>
    refine ⟨_, _, .one (isName_name foreground), ?_, rfl⟩
    rw [paintOf, written, ofName?_name, Option.bind_none]
  | some background =>
    refine ⟨_, _, .two (isName_name foreground) (isName_name background), ?_, rfl⟩
    rw [paintOf, ofName?_name, Option.bind_some, ofName?_name]

/-! ## The language of directives -/

/-- A token is a directive if it is a name, or two with a colon between them, and one of them is the
name of a color; the names are determined by the token, and each of them sets its own color.  So a
directive sets something, the case of its letters does not matter, it has at least two scalars, all
of them letters but for one colon, and what is written for a foreground and a background is a
directive for them, in any case. -/
theorem directive?_accepts (token : Text) :
    (∀ paint, directive? token = some paint
        ↔ ∃ first second, HasForm token first second
          ∧ (∃ name ∈ first :: second.toList, ∃ color, NamesColor name color)
          ∧ (∀ color, paint.foreground = some color ↔ NamesColor first color)
          ∧ ∀ color, paint.background = some color ↔ ∃ name ∈ second, NamesColor name color)
      ∧ (∀ first second other otherSecond, HasForm token first second →
          HasForm token other otherSecond → first = other ∧ second = otherSecond)
      ∧ names? token = whole (pair letters (orNothing (preceded (mark ':') letters))) token
      ∧ (∀ paint, directive? token = some paint →
          paint.foreground.isSome ∨ paint.background.isSome)
      ∧ (∀ other : Text, other.map Char.toLower = token.map Char.toLower →
          directive? other = directive? token)
      ∧ (token.length ≤ 1 → directive? token = none)
      ∧ (∀ c ∈ token, c.isAlpha = false → c ≠ ':' → directive? token = none)
      ∧ (1 < token.count ':' → directive? token = none)
      ∧ ∀ foreground background, token.map Char.toLower = written foreground background →
          directive? token = some ⟨some foreground, background⟩ := by
  refine ⟨?_, ?_, names?_eq_whole token, ?_, ?_, directive?_eq_none_of_length_le, ?_, ?_, ?_⟩
  · intro paint
    rw [directive?_eq_some_iff]
    refine exists_congr fun first => exists_congr fun second => and_congr_right fun hform => ?_
    rw [paintOf_eq_iff hform]
    constructor
    · rintro ⟨⟨hforeground, hbackground⟩, hplain⟩
      exact ⟨(isPlain_eq_false_iff_of_names hforeground hbackground).1 hplain, hforeground,
        hbackground⟩
    · rintro ⟨hnamed, hforeground, hbackground⟩
      exact ⟨⟨hforeground, hbackground⟩,
        (isPlain_eq_false_iff_of_names hforeground hbackground).2 hnamed⟩
  · intro first second other otherSecond h hother
    exact h.unique hother
  · intro paint hpaint
    simpa only [Paint.isPlain_eq_false_iff, Option.isSome_iff_exists] using
      not_isPlain_of_directive? hpaint
  · intro other hother
    rw [← directive?_map_toLower, hother, directive?_map_toLower]
  · intro c hc hletter hcolon
    exact directive?_eq_none_of_mem hc hletter hcolon
  · intro hcount
    rw [Option.eq_none_iff_forall_ne_some]
    intro paint hpaint
    obtain ⟨first, second, hform, -⟩ := directive?_eq_some_iff.1 hpaint
    exact absurd hform.count_colon_le (Nat.not_le.2 hcount)
  · intro foreground background htoken
    rw [← directive?_map_toLower, htoken, directive?_written]

end Markup

end ColorMarkup

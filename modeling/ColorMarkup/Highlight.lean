import ColorMarkup.Markup.Directive

/-!
# Highlighting

Every occurrence of a fragment in a field is wrapped in a directive, so that it shows in color; the
rest of the field stays as it is.  Occurrences are found from left to right without overlap, and
letters count as equal whatever their case.  This file holds

* `startsWith` and `firstOccurrence?`, the search for one occurrence;
* `Scan` and `scan`, the field cut into occurrences and the text around them;
* `Highlighter`, with `Highlighter.highlight`, the markup for a field.
-/

namespace ColorMarkup

/-! ## Searching -/

namespace Highlight

/-- Whether the letters of `fragment` are those at the start of the text, whatever their case. -/
def startsWith : (fragment text : Text) → Bool
  | [], _ => true
  | _ :: _, [] => false
  | letter :: fragment, c :: text => Unicode.sameLetter c letter && startsWith fragment text

/-- The text before the first place where `fragment` occurs, and the text from there on. -/
def firstOccurrence? (fragment : Text) : Text → Option (Text × Text)
  | [] => none
  | c :: rest =>
    if startsWith fragment (c :: rest) then some ([], c :: rest)
    else (firstOccurrence? fragment rest).map fun (before, found) => (c :: before, found)

/-- The two parts that a first occurrence makes are the text, and the second is not empty. -/
theorem firstOccurrence?_eq_some {fragment text before found : Text}
    (h : firstOccurrence? fragment text = some (before, found)) :
    before ++ found = text ∧ found ≠ [] := by
  induction text generalizing before found with
  | nil => simp [firstOccurrence?] at h
  | cons c rest ih =>
    rw [firstOccurrence?] at h
    split at h
    · obtain ⟨rfl, rfl⟩ : [] = before ∧ c :: rest = found := by simpa using h
      simp
    · obtain ⟨⟨tail, same⟩, hlater, hparts⟩ := Option.map_eq_some_iff.1 h
      obtain ⟨rfl, rfl⟩ : c :: tail = before ∧ same = found := by simpa using hparts
      obtain ⟨hjoined, hne⟩ := ih hlater
      exact ⟨by simp [hjoined], hne⟩

/-- An occurrence and the text between it and the one before. -/
structure Hit where
  before : Text
  text : Text
  deriving DecidableEq, Repr

/-- A field cut into its occurrences of a fragment and the text around them. -/
structure Scan where
  hits : List Hit
  /-- The text after the last occurrence. -/
  tail : Text
  deriving DecidableEq, Repr

-- the linter does not see that the name `hfound` is used to show that the recursion ends
set_option linter.unusedVariables false in
/-- Cuts a field at the occurrences of `fragment`: the first one, then the first one after its end,
and so on.  An empty fragment occurs nowhere. -/
def scan (fragment field : Text) : Scan :=
  if fragment = [] then ⟨[], field⟩
  else
    match hfound : firstOccurrence? fragment field with
    | none => ⟨[], field⟩
    | some (before, rest) =>
      let later := scan fragment (rest.drop fragment.length)
      ⟨⟨before, rest.take fragment.length⟩ :: later.hits, later.tail⟩
termination_by field.length
decreasing_by
  obtain ⟨rfl, hne⟩ := firstOccurrence?_eq_some hfound
  have hrest : 0 < rest.length := List.length_pos_iff.2 hne
  have hfragment : 0 < fragment.length := List.length_pos_iff.2 ‹fragment ≠ []›
  simp only [List.length_drop, List.length_append]
  omega

/-- The field that a scan came from. -/
def Scan.whole (scan : Scan) : Text :=
  (scan.hits.flatMap fun hit => hit.before ++ hit.text) ++ scan.tail

/-- A scan holds the whole field. -/
@[simp] theorem whole_scan (fragment field : Text) : (scan fragment field).whole = field := by
  fun_induction scan fragment field with
  | case1 => rfl
  | case2 => rfl
  | case3 field _ before rest hfound later ih =>
    obtain ⟨rfl, -⟩ := firstOccurrence?_eq_some hfound
    simp only [Scan.whole] at ih
    simp [Scan.whole, later, ih]

end Highlight

/-! ## Markup -/

/-- What highlighting looks like. -/
structure Highlighter where
  /-- The color of an occurrence. -/
  color : Color := .green
  /-- The delimiter of the markup to make. -/
  delimiter : Char := '#'
  deriving DecidableEq, Repr

namespace Highlighter

open Highlight (Scan Hit scan)

/-- The markup for an occurrence: the directive, the text that it colors, and the end of that. -/
def wrap (highlighter : Highlighter) (text : Text) : Text :=
  let mark := [highlighter.delimiter]
  mark ++ highlighter.color.name ++ mark ++ text ++ mark

/-- The markup for the text before an occurrence.  If all of it would be read as a directive, it is
taken apart into single letters, with an empty token between each two: no color has a name of one
letter. -/
def guard (highlighter : Highlighter) (text : Text) : Text :=
  if (Markup.directive? text).isSome then
    List.intercalate [highlighter.delimiter, highlighter.delimiter] (text.map ([·]))
  else text

/-- The markup for a field that has been cut up. -/
def markup (highlighter : Highlighter) (scan : Scan) : Text :=
  (scan.hits.flatMap fun hit => highlighter.guard hit.before ++ highlighter.wrap hit.text)
    ++ scan.tail

/-- The markup for a field in which every occurrence of `fragment` shows in color. -/
def highlight (highlighter : Highlighter) (fragment field : Text) : Text :=
  highlighter.markup (scan fragment field)

end Highlighter

/-- What there is to tell about the text before the occurrences of a fragment: some of it may look
like a directive. -/
def Highlight.records (fragment field : Text) : List Log.Record :=
  (scan fragment field).hits.flatMap fun hit => (Markup.Reading.of hit.before).records hit.before

end ColorMarkup

import Mathlib.Data.List.Forall2
import ColorMarkup.Highlight

/-!
# Occurrences of a fragment

Which scalars of a field are to be highlighted, said without the search.  Going through the field
from left to right, an occurrence of the fragment is taken if it does not overlap one taken before,
and the scalars of the occurrences taken are covered.

* `OccursAt`, `Taken` and `Covered` say so;
* `taken_append` is the step: after the first occurrence of all, the rest of the field is a field of
  its own;
* `getElem?_marks` says that `scan` finds exactly the scalars that are covered, so that `Covered`
  can be decided, and `mapIdx_covered` how a field looks if covered scalars look different.
-/

namespace ColorMarkup.Highlight

/-! ## What is covered -/

/-- The fragment occurs at a place of the field: the scalars from there on are its letters, whatever
their case.  An empty fragment occurs nowhere. -/
def OccursAt (fragment field : Text) (place : ℕ) : Prop :=
  fragment ≠ [] ∧
    List.Forall₂ (fun c letter => Unicode.sameLetter c letter = true)
      ((field.drop place).take fragment.length) fragment

/-- The occurrence at a place is taken, going from left to right: it starts no earlier than every
occurrence taken before it ends. -/
def Taken (fragment field : Text) (place : ℕ) : Prop :=
  OccursAt fragment field place ∧
    ∀ earlier, earlier < place → Taken fragment field earlier → earlier + fragment.length ≤ place
termination_by place

/-- The scalar at a place belongs to an occurrence that is taken. -/
def Covered (fragment field : Text) (place : ℕ) : Prop :=
  ∃ start, Taken fragment field start ∧ start ≤ place ∧ place < start + fragment.length

theorem taken_iff {fragment field : Text} {place : ℕ} :
    Taken fragment field place ↔
      OccursAt fragment field place ∧
        ∀ earlier, earlier < place → Taken fragment field earlier →
          earlier + fragment.length ≤ place := by
  rw [Taken]

/-! ## The search for one occurrence -/

theorem startsWith_iff {fragment text : Text} :
    startsWith fragment text = true ↔
      List.Forall₂ (fun c letter => Unicode.sameLetter c letter = true)
        (text.take fragment.length) fragment := by
  induction fragment generalizing text with
  | nil => simp [startsWith]
  | cons letter fragment ih =>
    cases text with
    | nil => simp [startsWith]
    | cons c text => simp [startsWith, ih]

theorem occursAt_iff {fragment field : Text} {place : ℕ} (h : fragment ≠ []) :
    OccursAt fragment field place ↔ startsWith fragment (field.drop place) = true := by
  rw [startsWith_iff]
  exact and_iff_right h

theorem not_occursAt_nil (field : Text) (place : ℕ) : ¬OccursAt [] field place := by
  intro h
  exact h.1 rfl

/-- An occurrence lies within the field. -/
theorem OccursAt.le_length {fragment field : Text} {place : ℕ} (h : OccursAt fragment field place) :
    place + fragment.length ≤ field.length := by
  have hlength := h.2.length_eq
  have hpos : 0 < fragment.length := List.length_pos_iff.2 h.1
  simp only [List.length_take, List.length_drop] at hlength
  omega

/-- If the search fails, the fragment occurs nowhere. -/
theorem not_occursAt_of_firstOccurrence?_eq_none {fragment field : Text}
    (h : firstOccurrence? fragment field = none) (place : ℕ) : ¬OccursAt fragment field place := by
  induction field generalizing place with
  | nil =>
    intro hoccurs
    have hle := hoccurs.le_length
    have hpos : 0 < fragment.length := List.length_pos_iff.2 hoccurs.1
    simp only [List.length_nil] at hle
    omega
  | cons c rest ih =>
    rw [firstOccurrence?] at h
    split at h
    · exact absurd h (by simp)
    · next hnot =>
      intro hoccurs
      cases place with
      | zero => exact hnot ((occursAt_iff hoccurs.1).1 hoccurs)
      | succ place => exact ih (Option.map_eq_none_iff.1 h) place hoccurs

/-- If the search finds an occurrence, there is one there and none before. -/
theorem occursAt_of_firstOccurrence?_eq_some {fragment field before found : Text}
    (hfragment : fragment ≠ []) (h : firstOccurrence? fragment field = some (before, found)) :
    OccursAt fragment field before.length
      ∧ ∀ place < before.length, ¬OccursAt fragment field place := by
  induction field generalizing before found with
  | nil => exact absurd h (by simp [firstOccurrence?])
  | cons c rest ih =>
    rw [firstOccurrence?] at h
    split at h
    · next hstarts =>
      obtain ⟨rfl, rfl⟩ : [] = before ∧ c :: rest = found := by simpa using h
      exact ⟨(occursAt_iff hfragment).2 hstarts, by simp⟩
    · next hnot =>
      obtain ⟨⟨tail, same⟩, hlater, hwhole⟩ := Option.map_eq_some_iff.1 h
      obtain ⟨rfl, rfl⟩ : c :: tail = before ∧ same = found := by simpa using hwhole
      obtain ⟨hoccurs, hnone⟩ := ih hlater
      refine ⟨hoccurs, ?_⟩
      intro place hplace hearlier
      cases place with
      | zero => exact hnot ((occursAt_iff hfragment).1 hearlier)
      | succ place => exact hnone place (by simpa using hplace) hearlier

/-! ## After the first occurrence -/

section Step

variable {fragment before text rest : Text}

theorem occursAt_append (hlength : text.length = fragment.length) (place : ℕ) :
    OccursAt fragment (before ++ (text ++ rest)) (before.length + fragment.length + place)
      ↔ OccursAt fragment rest place := by
  have hdrop : (before ++ (text ++ rest)).drop (before.length + fragment.length + place)
      = rest.drop place := by
    rw [← hlength, ← List.append_assoc, ← List.length_append, List.drop_append]
    simp
  rw [OccursAt, hdrop, OccursAt]

/-- The first occurrence of all is taken. -/
theorem taken_of_first {field : Text} {place : ℕ} (hfirst : OccursAt fragment field place)
    (hnone : ∀ earlier < place, ¬OccursAt fragment field earlier) : Taken fragment field place := by
  rw [taken_iff]
  refine ⟨hfirst, ?_⟩
  intro earlier hearlier htaken
  exact absurd (taken_iff.1 htaken).1 (hnone earlier hearlier)

/-- Of the occurrences, the first one is taken, and then those that are taken in the rest of the
field. -/
theorem taken_append (hlength : text.length = fragment.length)
    (hfirst : OccursAt fragment (before ++ (text ++ rest)) before.length)
    (hnone : ∀ place < before.length, ¬OccursAt fragment (before ++ (text ++ rest)) place)
    (place : ℕ) :
    Taken fragment (before ++ (text ++ rest)) place
      ↔ place = before.length
        ∨ ∃ later, place = before.length + fragment.length + later
          ∧ Taken fragment rest later := by
  have hpos : 0 < fragment.length := List.length_pos_iff.2 hfirst.1
  have hstart := taken_of_first hfirst hnone
  -- whether a place is taken depends on the places before it, so the induction is on the place
  induction place using Nat.strongRecOn with
  | _ place ih =>
    by_cases hbefore : place < before.length
    · -- nothing occurs here
      have hleft : ¬Taken fragment (before ++ (text ++ rest)) place := by
        intro htaken
        exact hnone place hbefore (taken_iff.1 htaken).1
      refine iff_of_false hleft ?_
      rintro (heq | ⟨later, heq, -⟩) <;> omega
    · by_cases hend : place < before.length + fragment.length
      · -- here only the first occurrence itself is taken, as it overlaps all others
        constructor
        · intro htaken
          by_contra hne
          have hneq : place ≠ before.length := fun heq => hne (.inl heq)
          have hle := (taken_iff.1 htaken).2 _ (by omega) hstart
          omega
        · rintro (heq | ⟨later, heq, -⟩)
          · rw [heq]
            exact hstart
          · omega
      · -- from here on, the occurrences are those in the rest of the field
        obtain ⟨later, rfl⟩ : ∃ later, place = before.length + fragment.length + later :=
          ⟨place - (before.length + fragment.length), by omega⟩
        have hright : (before.length + fragment.length + later = before.length
            ∨ ∃ other, before.length + fragment.length + later
              = before.length + fragment.length + other ∧ Taken fragment rest other)
            ↔ Taken fragment rest later := by
          constructor
          · rintro (heq | ⟨other, heq, htaken⟩)
            · omega
            · obtain rfl : other = later := by omega
              exact htaken
          · intro htaken
            exact .inr ⟨later, rfl, htaken⟩
        rw [hright, taken_iff, taken_iff, occursAt_append hlength]
        apply and_congr_right
        intro _
        constructor
        · intro hends earlier hearlier htaken
          have hle := hends (before.length + fragment.length + earlier) (by omega)
            ((ih _ (by omega)).2 (.inr ⟨earlier, rfl, htaken⟩))
          omega
        · intro hends earlier hearlier htaken
          rcases (ih earlier hearlier).1 htaken with rfl | ⟨other, rfl, hother⟩
          · -- the first occurrence ends where the rest of the field starts
            omega
          · have hle := hends other (by omega) hother
            omega

/-- The scalars that are covered, likewise: those of the first occurrence, and then those that are
covered in the rest of the field. -/
theorem covered_append (hlength : text.length = fragment.length)
    (hfirst : OccursAt fragment (before ++ (text ++ rest)) before.length)
    (hnone : ∀ place < before.length, ¬OccursAt fragment (before ++ (text ++ rest)) place)
    (place : ℕ) :
    Covered fragment (before ++ (text ++ rest)) place
      ↔ (before.length ≤ place ∧ place < before.length + fragment.length)
        ∨ ∃ later, place = before.length + fragment.length + later
          ∧ Covered fragment rest later := by
  unfold Covered
  simp only [taken_append hlength hfirst hnone]
  constructor
  · rintro ⟨start, rfl | ⟨later, rfl, htaken⟩, hle, hlt⟩
    · exact .inl ⟨hle, hlt⟩
    · refine .inr ⟨place - (before.length + fragment.length), by omega, later, htaken, ?_, ?_⟩ <;>
        omega
  · rintro (⟨hle, hlt⟩ | ⟨later, rfl, start, htaken, hle, hlt⟩)
    · exact ⟨before.length, .inl rfl, hle, hlt⟩
    · exact ⟨before.length + fragment.length + start, .inr ⟨start, rfl, htaken⟩, by omega,
        by omega⟩

end Step

/-! ## The scan -/

theorem scan_of_firstOccurrence?_eq_none {fragment field : Text}
    (h : firstOccurrence? fragment field = none) :
    scan fragment field = ⟨[], field⟩ := by
  rw [scan]
  split
  · rfl
  · split
    · rfl
    · next hfound => simp [h] at hfound

theorem scan_of_firstOccurrence?_eq_some {fragment field before found : Text}
    (hfragment : fragment ≠ []) (h : firstOccurrence? fragment field = some (before, found)) :
    scan fragment field
      = ⟨⟨before, found.take fragment.length⟩
          :: (scan fragment (found.drop fragment.length)).hits,
        (scan fragment (found.drop fragment.length)).tail⟩ := by
  rw [scan, if_neg hfragment]
  split
  · next hnone => simp [h] at hnone
  · next start rest hfound =>
    obtain ⟨rfl, rfl⟩ : before = start ∧ found = rest := by simpa [h] using hfound
    rfl

/-- The marks that a scan makes, one for every scalar: whether it belongs to an occurrence. -/
def Scan.marks (scan : Scan) : List Bool :=
  (scan.hits.flatMap fun hit =>
      List.replicate hit.before.length false ++ List.replicate hit.text.length true)
    ++ List.replicate scan.tail.length false

private theorem getElem?_replicate_append (a b place : ℕ) (marks : List Bool) :
    (List.replicate a false ++ (List.replicate b true ++ marks))[place]? = some true
      ↔ (a ≤ place ∧ place < a + b)
        ∨ ∃ later, place = a + b + later ∧ marks[later]? = some true := by
  by_cases hbefore : place < a
  · rw [List.getElem?_append_left (by simpa using hbefore)]
    refine iff_of_false (by simp [hbefore]) ?_
    rintro (⟨hle, -⟩ | ⟨later, rfl, -⟩) <;> omega
  · obtain ⟨inner, rfl⟩ : ∃ inner, place = a + inner := ⟨place - a, by omega⟩
    rw [List.getElem?_append_right (by simp)]
    by_cases hinner : inner < b
    · rw [List.getElem?_append_left (by simpa using hinner)]
      refine iff_of_true (by simp [hinner]) (.inl ?_)
      omega
    · obtain ⟨later, rfl⟩ : ∃ later, inner = b + later := ⟨inner - b, by omega⟩
      rw [List.getElem?_append_right (by simp)]
      constructor
      · intro hmark
        exact .inr ⟨later, by omega, by simpa using hmark⟩
      · rintro (⟨-, hlt⟩ | ⟨other, heq, hmark⟩)
        · omega
        · obtain rfl : other = later := by omega
          simpa using hmark

theorem not_covered_of_not_occursAt {fragment field : Text}
    (h : ∀ place, ¬OccursAt fragment field place) (place : ℕ) : ¬Covered fragment field place := by
  rintro ⟨start, htaken, -⟩
  exact h start (taken_iff.1 htaken).1

/-- A scan marks exactly the scalars that are covered. -/
theorem getElem?_marks (fragment field : Text) (place : ℕ) :
    (scan fragment field).marks[place]? = some true ↔ Covered fragment field place := by
  have hplain (text : Text) (place : ℕ) :
      (Scan.marks ⟨[], text⟩)[place]? ≠ some true := by
    simp [Scan.marks, List.getElem?_replicate]
  -- one step for each hit, and each is the step of taken_append
  fun_induction scan fragment field generalizing place with
  | case1 field hfragment =>
    refine iff_of_false (hplain field place) ?_
    rw [hfragment]
    exact not_covered_of_not_occursAt (not_occursAt_nil field) place
  | case2 field hfragment hnone =>
    refine iff_of_false (hplain field place) ?_
    exact not_covered_of_not_occursAt (not_occursAt_of_firstOccurrence?_eq_none hnone) place
  | case3 field hfragment before found hfound later ih =>
    obtain ⟨hoccurs, hnone⟩ := occursAt_of_firstOccurrence?_eq_some hfragment hfound
    obtain ⟨rfl, -⟩ := firstOccurrence?_eq_some hfound
    have hlength : (found.take fragment.length).length = fragment.length := by
      have hle := hoccurs.le_length
      simp only [List.length_append] at hle
      simp only [List.length_take]
      omega
    have hcut : found = found.take fragment.length ++ found.drop fragment.length :=
      (List.take_append_drop _ _).symm
    have hmarks : Scan.marks ⟨⟨before, found.take fragment.length⟩ :: later.hits, later.tail⟩
        = List.replicate before.length false
          ++ (List.replicate fragment.length true ++ later.marks) := by
      simp [Scan.marks, hlength]
    rw [hcut] at hoccurs hnone
    conv_rhs => rw [hcut]
    rw [covered_append hlength hoccurs hnone, hmarks, getElem?_replicate_append]
    exact or_congr_right (exists_congr fun inner => and_congr_right fun _ => ih inner)

instance (fragment field : Text) : DecidablePred (Covered fragment field) := fun place =>
  decidable_of_iff _ (getElem?_marks fragment field place)

section Marks

variable {β : Type} (f : Bool → Char → β)

private theorem zipWith_replicate (mark : Bool) (text : Text) :
    List.zipWith f (List.replicate text.length mark) text = text.map (f mark) := by
  induction text with
  | nil => rfl
  | cons c text ih => simp [List.replicate_succ, ih]

/-- A scan, with its scalars put together with their marks. -/
theorem Scan.zipWith_marks (scan : Scan) :
    List.zipWith f scan.marks scan.whole
      = (scan.hits.flatMap fun hit => hit.before.map (f false) ++ hit.text.map (f true))
        ++ scan.tail.map (f false) := by
  obtain ⟨hits, tail⟩ := scan
  induction hits with
  | nil => simp [marks, whole, zipWith_replicate]
  | cons hit hits ih =>
    have hmarks : marks ⟨hit :: hits, tail⟩
        = List.replicate hit.before.length false
          ++ (List.replicate hit.text.length true ++ marks ⟨hits, tail⟩) := by
      simp [marks]
    have hwhole : whole ⟨hit :: hits, tail⟩ = hit.before ++ (hit.text ++ whole ⟨hits, tail⟩) := by
      simp [whole]
    rw [hmarks, hwhole, List.zipWith_append (by simp), List.zipWith_append (by simp), ih,
      zipWith_replicate, zipWith_replicate]
    simp

theorem Scan.length_marks (scan : Scan) : scan.marks.length = scan.whole.length := by
  simp [marks, whole, List.length_flatMap]

end Marks

/-- How a field looks if the scalars that are covered look different from the others. -/
theorem mapIdx_covered {β : Type} (covered plain : Char → β) (fragment field : Text) :
    (field.mapIdx fun place c => if Covered fragment field place then covered c else plain c)
      = ((scan fragment field).hits.flatMap fun hit =>
          hit.before.map plain ++ hit.text.map covered)
        ++ (scan fragment field).tail.map plain := by
  have hzip := (scan fragment field).zipWith_marks fun mark c => if mark then covered c else plain c
  have hlength := (scan fragment field).length_marks
  rw [whole_scan] at hzip hlength
  simp only [if_true, Bool.false_eq_true, if_false] at hzip
  rw [← hzip]
  apply List.ext_getElem (by simp [hlength])
  intro place hplace hmark
  have hlt : place < (scan fragment field).marks.length := by
    simp only [List.length_zipWith] at hmark
    omega
  have hget := List.getElem?_eq_getElem hlt
  have hiff := getElem?_marks fragment field place
  rw [hget, Option.some_inj] at hiff
  simp [← hiff]

end ColorMarkup.Highlight

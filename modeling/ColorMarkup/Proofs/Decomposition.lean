import ColorMarkup.Highlight.Marker
import ColorMarkup.Proofs.Occurrence

/-!
# The one way to cut a field

A field is cut into matches of a fragment and the gaps around them, so that no occurrence of the
fragment starts in a gap.  There is exactly one such cut, and highlighting makes it, although it
goes through the field by bytes.

* `Decomposes` says what such a cut is, with `extent` and `matchStart` for the places in it.
* `decomposes_nil` and `decomposes_cons` are the two cases of a cut, and `decomposes_iff` says that
  the only one is `scan`.
* `Marker.finish?_eq` is the invariant of a marker: what it has still to write is the markup for a
  scan of the rest of the field, with the gap that is open put in front.
* `exists_decomposes` puts these together.
-/

namespace ColorMarkup

namespace Highlight

/-! ## Cuts of a field -/

/-- The number of scalars up to the end of some hits. -/
def extent : List Hit → ℕ
  | [] => 0
  | hit :: hits => hit.before.length + hit.text.length + extent hits

@[simp] theorem extent_nil : extent [] = 0 := rfl

@[simp] theorem extent_cons (hit : Hit) (hits : List Hit) :
    extent (hit :: hits) = hit.before.length + hit.text.length + extent hits := rfl

@[simp] theorem extent_append (a b : List Hit) : extent (a ++ b) = extent a + extent b := by
  induction a with
  | nil => simp
  | cons hit a ih => simp [ih, Nat.add_assoc]

/-- Where a match starts, counted from the start of the field; `earlier` are the hits before it. -/
def matchStart (earlier : List Hit) (hit : Hit) : ℕ :=
  extent earlier + hit.before.length

/-- A cut of the field into matches and gaps: each match is an occurrence of the fragment, and none
starts within a gap, be it that it reaches into the next match. -/
structure Decomposes (fragment field : Text) (cut : Scan) : Prop where
  /-- The parts make up the field. -/
  whole_eq : cut.whole = field
  /-- A match is an occurrence, with as many scalars as the fragment. -/
  occursAt : ∀ earlier hit later, cut.hits = earlier ++ hit :: later →
    hit.text.length = fragment.length
      ∧ OccursAt fragment field (matchStart earlier hit)
  /-- No occurrence starts in the gap before a match. -/
  not_occursAt_gap : ∀ earlier hit later, cut.hits = earlier ++ hit :: later →
    ∀ place < hit.before.length, ¬OccursAt fragment field (extent earlier + place)
  /-- No occurrence starts in the gap at the end. -/
  not_occursAt_tail : ∀ place < cut.tail.length,
    ¬OccursAt fragment field (extent cut.hits + place)

variable {fragment field : Text}

/-- A cut without a match is the field, and nothing occurs in it. -/
theorem decomposes_nil {tail : Text} :
    Decomposes fragment field ⟨[], tail⟩
      ↔ tail = field ∧ ∀ place, ¬OccursAt fragment field place := by
  constructor
  · intro h
    obtain rfl : tail = field := h.whole_eq
    refine ⟨rfl, ?_⟩
    intro place hoccurs
    have hle := hoccurs.le_length
    have hpos : 0 < fragment.length := List.length_pos_iff.2 hoccurs.1
    have hlt : place < tail.length := by omega
    have hnot := h.not_occursAt_tail place hlt
    rw [extent_nil, Nat.zero_add] at hnot
    exact hnot hoccurs
  · rintro ⟨rfl, hnot⟩
    refine ⟨rfl, ?_, ?_, ?_⟩
    · intro earlier hit later hhits
      simp at hhits
    · intro earlier hit later hhits
      simp at hhits
    · intro place _
      exact hnot _

/-- What holds for every hit and the hits before it holds for the first hit, with none before, and
for all others, with the first one among those before. -/
theorem forall_hit_cons {P : List Hit → Hit → Prop} {first : Hit} {hits : List Hit} :
    (∀ earlier hit later, first :: hits = earlier ++ hit :: later → P earlier hit)
      ↔ P [] first
        ∧ ∀ earlier hit later, hits = earlier ++ hit :: later → P (first :: earlier) hit := by
  constructor
  · intro h
    refine ⟨h [] first hits rfl, ?_⟩
    intro earlier hit later hhits
    exact h (first :: earlier) hit later (congrArg (first :: ·) hhits)
  · rintro ⟨hfirst, hothers⟩ earlier hit later hhits
    rcases List.cons_eq_append_iff.1 hhits with ⟨rfl, heq⟩ | ⟨others, rfl, heq⟩
    · obtain ⟨rfl, rfl⟩ := List.cons.inj heq
      exact hfirst
    · exact hothers others hit later heq

/-- A cut with a match is one at the first occurrence of all, and then a cut of the rest. -/
theorem decomposes_cons {before text tail : Text} {hits : List Hit} :
    Decomposes fragment field ⟨⟨before, text⟩ :: hits, tail⟩
      ↔ ∃ rest, field = before ++ (text ++ rest) ∧ text.length = fragment.length
        ∧ OccursAt fragment field before.length
        ∧ (∀ place < before.length, ¬OccursAt fragment field place)
        ∧ Decomposes fragment rest ⟨hits, tail⟩ := by
  -- a place of the rest is one of the field, with what stands before the rest added
  have hplace {rest : Text} (hlength : text.length = fragment.length) (earlier place : ℕ) :
      OccursAt fragment (before ++ (text ++ rest))
          (before.length + text.length + earlier + place)
        ↔ OccursAt fragment rest (earlier + place) := by
    rw [hlength, Nat.add_assoc, occursAt_append hlength]
  constructor
  · intro h
    obtain ⟨⟨hlength, hfirst⟩, hothers⟩ := forall_hit_cons.1 h.occursAt
    obtain ⟨hnone, hgaps⟩ := forall_hit_cons.1 h.not_occursAt_gap
    have hfield : field = before ++ (text ++ Scan.whole ⟨hits, tail⟩) := by
      rw [← h.whole_eq]
      simp [Scan.whole]
    have htail := h.not_occursAt_tail
    simp only [matchStart, extent_nil, Nat.zero_add] at hfirst hnone
    simp only [matchStart, hfield, extent_cons, hplace hlength] at hothers hgaps htail
    exact ⟨Scan.whole ⟨hits, tail⟩, hfield, hlength, hfirst, hnone,
      ⟨rfl, hothers, hgaps, htail⟩⟩
  · rintro ⟨rest, rfl, hlength, hfirst, hnone, h⟩
    refine ⟨?_, forall_hit_cons.2 ⟨?_, ?_⟩, forall_hit_cons.2 ⟨?_, ?_⟩, ?_⟩
    · rw [← h.whole_eq]
      simp [Scan.whole]
    · simpa [matchStart] using ⟨hlength, hfirst⟩
    · simpa only [matchStart, extent_cons, hplace hlength] using h.occursAt
    · simpa using hnone
    · simpa only [extent_cons, hplace hlength] using h.not_occursAt_gap
    · simpa only [extent_cons, hplace hlength] using h.not_occursAt_tail

/-! ## The only cut -/

/-- The search finds the first occurrence of all. -/
theorem firstOccurrence?_of_first {before found : Text}
    (hfirst : OccursAt fragment (before ++ found) before.length)
    (hnone : ∀ place < before.length, ¬OccursAt fragment (before ++ found) place) :
    firstOccurrence? fragment (before ++ found) = some (before, found) := by
  cases hsearch : firstOccurrence? fragment (before ++ found) with
  | none => exact absurd hfirst (not_occursAt_of_firstOccurrence?_eq_none hsearch _)
  | some parts =>
    obtain ⟨start, rest⟩ := parts
    obtain ⟨hoccurs, hearlier⟩ := occursAt_of_firstOccurrence?_eq_some hfirst.1 hsearch
    obtain ⟨hparts, -⟩ := firstOccurrence?_eq_some hsearch
    -- neither of the two places is before the other
    have hlength : start.length = before.length := by
      rcases Nat.lt_trichotomy start.length before.length with hlt | heq | hgt
      · exact absurd hoccurs (hnone _ hlt)
      · exact heq
      · exact absurd hfirst (hearlier _ hgt)
    obtain ⟨rfl, rfl⟩ := List.append_inj hparts hlength
    rfl

theorem scan_of_not_occursAt (h : ∀ place, ¬OccursAt fragment field place) :
    scan fragment field = ⟨[], field⟩ := by
  by_cases hfragment : fragment = []
  · rw [scan, if_pos hfragment]
  · apply scan_of_firstOccurrence?_eq_none
    rw [Option.eq_none_iff_forall_ne_some]
    intro parts hparts
    exact h _ (occursAt_of_firstOccurrence?_eq_some hfragment hparts).1

theorem scan_of_first {before text rest : Text} (hlength : text.length = fragment.length)
    (hfirst : OccursAt fragment (before ++ (text ++ rest)) before.length)
    (hnone : ∀ place < before.length, ¬OccursAt fragment (before ++ (text ++ rest)) place) :
    scan fragment (before ++ (text ++ rest))
      = ⟨⟨before, text⟩ :: (scan fragment rest).hits, (scan fragment rest).tail⟩ := by
  rw [scan_of_firstOccurrence?_eq_some hfirst.1 (firstOccurrence?_of_first hfirst hnone),
    List.take_left' hlength, List.drop_left' hlength]

/-- There is one cut of a field and no other: the scan. -/
theorem decomposes_iff {cut : Scan} :
    Decomposes fragment field cut ↔ cut = scan fragment field := by
  constructor
  · obtain ⟨hits, tail⟩ := cut
    induction hits generalizing field with
    | nil =>
      intro h
      obtain ⟨rfl, hnot⟩ := decomposes_nil.1 h
      rw [scan_of_not_occursAt hnot]
    | cons hit hits ih =>
      intro h
      obtain ⟨rest, rfl, hlength, hfirst, hnone, hrest⟩ := decomposes_cons.1 h
      rw [scan_of_first hlength hfirst hnone, ← ih hrest]
  · rintro rfl
    fun_induction scan fragment field with
    | case1 field hfragment =>
      rw [decomposes_nil, hfragment]
      exact ⟨rfl, not_occursAt_nil field⟩
    | case2 field hfragment hnone =>
      exact decomposes_nil.2 ⟨rfl, not_occursAt_of_firstOccurrence?_eq_none hnone⟩
    | case3 field hfragment before found hfound later ih =>
      obtain ⟨hoccurs, hnone⟩ := occursAt_of_firstOccurrence?_eq_some hfragment hfound
      obtain ⟨rfl, -⟩ := firstOccurrence?_eq_some hfound
      have hlength : (found.take fragment.length).length = fragment.length := by
        have hle := hoccurs.le_length
        rw [List.length_append] at hle
        rw [List.length_take]
        omega
      refine decomposes_cons.2 ⟨found.drop fragment.length, ?_, hlength, hoccurs, hnone, ih⟩
      rw [List.take_append_drop]

/-! ## The matches of a cut -/

theorem length_flatMap_hits (hits : List Hit) :
    (hits.flatMap fun hit => hit.before ++ hit.text).length = extent hits := by
  induction hits with
  | nil => rfl
  | cons hit hits ih => simp [ih, Nat.add_assoc]

namespace Decomposes

variable {cut : Scan} {earlier later : List Hit} {hit : Hit}

/-- A match is the part of the field at its place, letter for letter. -/
theorem text_eq (h : Decomposes fragment field cut) (hhits : cut.hits = earlier ++ hit :: later) :
    hit.text = (field.drop (matchStart earlier hit)).take fragment.length := by
  obtain ⟨hlength, -⟩ := h.occursAt earlier hit later hhits
  have hfield : field = (earlier.flatMap fun hit => hit.before ++ hit.text) ++ hit.before
      ++ (hit.text ++ Scan.whole ⟨later, cut.tail⟩) := by
    rw [← h.whole_eq, Scan.whole, hhits]
    simp [Scan.whole]
  have hplace : ((earlier.flatMap fun hit => hit.before ++ hit.text) ++ hit.before).length
      = matchStart earlier hit := by
    rw [List.length_append, length_flatMap_hits, matchStart]
  rw [hfield, List.drop_left' hplace, List.take_left' hlength]

/-- Two matches do not overlap. -/
theorem matchStart_add_le (h : Decomposes fragment field cut) {between : List Hit} {next : Hit}
    (hhits : cut.hits = earlier ++ hit :: (between ++ next :: later)) :
    matchStart earlier hit + fragment.length ≤ matchStart (earlier ++ hit :: between) next := by
  obtain ⟨hlength, -⟩ := h.occursAt earlier hit _ hhits
  simp only [matchStart, extent_append, extent_cons]
  omega

/-- An occurrence that is no match starts within a match. -/
theorem exists_match (h : Decomposes fragment field cut) {place : ℕ}
    (hoccurs : OccursAt fragment field place) :
    ∃ earlier hit later, cut.hits = earlier ++ hit :: later
      ∧ matchStart earlier hit ≤ place
      ∧ place < matchStart earlier hit + fragment.length := by
  obtain ⟨hits, tail⟩ := cut
  dsimp only
  induction hits generalizing field place with
  | nil => exact absurd hoccurs ((decomposes_nil.1 h).2 place)
  | cons first hits ih =>
    obtain ⟨rest, rfl, hlength, -, hnone, hrest⟩ := decomposes_cons.1 h
    by_cases hgap : place < first.before.length
    · exact absurd hoccurs (hnone place hgap)
    · by_cases hmatch : place < first.before.length + fragment.length
      · refine ⟨[], first, hits, rfl, ?_, ?_⟩
        · rw [matchStart, extent_nil]
          omega
        · rw [matchStart, extent_nil]
          omega
      · -- the place is one of the rest of the field
        obtain ⟨inner, rfl⟩ : ∃ inner, place = first.before.length + fragment.length + inner :=
          ⟨place - (first.before.length + fragment.length), by omega⟩
        rw [occursAt_append hlength] at hoccurs
        obtain ⟨earlier, hit, later, hhits, hle, hlt⟩ := ih hoccurs hrest
        unfold matchStart at hle hlt
        refine ⟨first :: earlier, hit, later, congrArg (first :: ·) hhits, ?_, ?_⟩
        · rw [matchStart, extent_cons]
          omega
        · rw [matchStart, extent_cons]
          omega

end Decomposes

/-! ## A scan, scalar by scalar -/

/-- The scan of a field with a text in front of it in which nothing starts. -/
def Scan.prepend (gap : Text) : Scan → Scan
  | ⟨[], tail⟩ => ⟨[], gap ++ tail⟩
  | ⟨hit :: hits, tail⟩ => ⟨⟨gap ++ hit.before, hit.text⟩ :: hits, tail⟩

@[simp] theorem Scan.prepend_nil (cut : Scan) : cut.prepend [] = cut := by
  obtain ⟨_ | ⟨hit, hits⟩, tail⟩ := cut <;> rfl

theorem Scan.prepend_append (a b : Text) (cut : Scan) :
    cut.prepend (a ++ b) = (cut.prepend b).prepend a := by
  obtain ⟨_ | ⟨hit, hits⟩, tail⟩ := cut <;> simp [prepend]

/-- Where an occurrence starts at the first scalar, it is the first match. -/
theorem scan_of_startsWith {field : Text} (hfragment : fragment ≠ [])
    (h : startsWith fragment field = true) :
    scan fragment field
      = ⟨⟨[], field.take fragment.length⟩ :: (scan fragment (field.drop fragment.length)).hits,
        (scan fragment (field.drop fragment.length)).tail⟩ := by
  apply scan_of_firstOccurrence?_eq_some hfragment
  cases field with
  | nil =>
    cases fragment with
    | nil => exact absurd rfl hfragment
    | cons letter fragment => simp [startsWith] at h
  | cons c rest => rw [firstOccurrence?, if_pos h]

/-- Where none starts at the first scalar, the scan is that of the rest, with the scalar in
front. -/
theorem scan_cons_of_startsWith_eq_false {c : Char} {rest : Text} (hfragment : fragment ≠ [])
    (h : startsWith fragment (c :: rest) = false) :
    scan fragment (c :: rest) = (scan fragment rest).prepend [c] := by
  have hsearch : firstOccurrence? fragment (c :: rest)
      = (firstOccurrence? fragment rest).map fun parts => (c :: parts.1, parts.2) := by
    rw [firstOccurrence?, h]
    rfl
  cases hrest : firstOccurrence? fragment rest with
  | none =>
    rw [hrest, Option.map_none] at hsearch
    rw [scan_of_firstOccurrence?_eq_none hsearch, scan_of_firstOccurrence?_eq_none hrest]
    rfl
  | some parts =>
    obtain ⟨before, found⟩ := parts
    rw [hrest, Option.map_some] at hsearch
    rw [scan_of_firstOccurrence?_eq_some hfragment hsearch,
      scan_of_firstOccurrence?_eq_some hfragment hrest]
    rfl

end Highlight

/-! ## A marker -/

open Highlight

theorem Highlighter.markup_prepend_cons (highlighter : Highlighter) (gap : Text) (hit : Hit)
    (hits : List Hit) (tail : Text) :
    highlighter.markup (Scan.prepend gap ⟨hit :: hits, tail⟩)
      = highlighter.guard (gap ++ hit.before) ++ highlighter.wrap hit.text
        ++ highlighter.markup ⟨hits, tail⟩ := by
  simp [Scan.prepend, markup]

namespace Marker

variable (highlighter : Highlighter) {fragment : Text}

/-- A step where an occurrence starts: the gap and the occurrence are copied. -/
theorem next?_of_startsWith (start gap out : Text) {rest : Text}
    (h : startsWith fragment rest = true) :
    let found := rest.take fragment.length
    let stop := Text.byteLength (start ++ gap ++ found)
    next? highlighter fragment (start ++ (gap ++ rest))
        ⟨Text.byteLength (start ++ gap), Text.byteLength start, out⟩
      = some ⟨stop, stop, out ++ highlighter.guard gap ++ highlighter.wrap found⟩ := by
  intro found stop
  have hrest : rest = found ++ rest.drop fragment.length := (List.take_append_drop _ _).symm
  have hstop : Text.byteLength (start ++ gap) + Text.byteLength found = stop :=
    (Text.byteLength_append _ _).symm
  have hdrop : Text.dropBytes? (Text.byteLength (start ++ gap)) (start ++ (gap ++ rest))
      = some rest := by
    rw [← List.append_assoc]
    exact Text.dropBytes?_byteLength_append _ _
  have hmatch : matchBytes? fragment rest = some (Text.byteLength found) := by
    rw [matchBytes?_eq, if_pos h]
  have hgap : Text.slice? (start ++ (gap ++ rest)) (Text.byteLength start)
      (Text.byteLength (start ++ gap)) = some gap := by
    rw [Text.byteLength_append]
    exact Text.slice?_append start gap rest
  have hfound : Text.slice? (start ++ (gap ++ rest)) (Text.byteLength (start ++ gap)) stop
      = some found := by
    have hslice := Text.slice?_append (start ++ gap) found (rest.drop fragment.length)
    rwa [← hrest, hstop, List.append_assoc] at hslice
  simp only [next?, hdrop, hmatch, hstop, hgap, hfound, Option.bind_eq_bind, Option.bind_some]
  rfl

/-- A step where none starts: one more scalar is in the gap. -/
theorem next?_of_startsWith_eq_false (start gap out : Text) {c : Char} {rest : Text}
    (h : startsWith fragment (c :: rest) = false) :
    next? highlighter fragment (start ++ (gap ++ c :: rest))
        ⟨Text.byteLength (start ++ gap), Text.byteLength start, out⟩
      = some ⟨Text.byteLength (start ++ (gap ++ [c])), Text.byteLength start, out⟩ := by
  have hdrop : Text.dropBytes? (Text.byteLength (start ++ gap)) (start ++ (gap ++ c :: rest))
      = some (c :: rest) := by
    rw [← List.append_assoc]
    exact Text.dropBytes?_byteLength_append _ _
  have hmatch : matchBytes? fragment (c :: rest) = none := by
    rw [matchBytes?_eq, h]
    rfl
  have hplace : Text.byteLength (start ++ gap) + c.utf8Size
      = Text.byteLength (start ++ (gap ++ [c])) := by
    simp [Nat.add_assoc]
  simp only [next?, hdrop, hmatch, Option.bind_eq_bind, Option.bind_some, List.head?_cons,
    Option.elim_some, hplace]
  rfl

/-- While there is more to look at, the marker goes on from where its next step leads. -/
theorem finish?_of_next? {field : Text} (hfragment : fragment ≠ []) {marker next : Marker}
    (hmore : marker.position < field.byteLength)
    (hstep : marker.next? highlighter fragment field = some next) :
    finish? highlighter fragment field hfragment marker
      = finish? highlighter fragment field hfragment next := by
  rw [finish?, if_pos hmore]
  split
  · next hnone => simp [hstep] at hnone
  · next other hother =>
    obtain rfl : next = other := by simpa [hstep] using hother
    rfl

/-- What a marker has still to write, when it has copied the field up to a gap and looked at it up
to the end of the gap: the markup for a scan of the rest, with the gap in front. -/
theorem finish?_eq (hfragment : fragment ≠ []) (start gap rest out : Text) :
    finish? highlighter fragment (start ++ (gap ++ rest)) hfragment
        ⟨Text.byteLength (start ++ gap), Text.byteLength start, out⟩
      = some (out ++ highlighter.markup ((scan fragment rest).prepend gap)) := by
  -- by induction on the length of the rest, as an occurrence takes several scalars of it at once
  induction hlength : rest.length using Nat.strongRecOn generalizing start gap rest out with
  | _ length ih =>
    subst hlength
    cases rest with
    | nil =>
      have hend : ¬Text.byteLength (start ++ gap) < Text.byteLength (start ++ (gap ++ [])) := by
        simp
      have hdrop : Text.dropBytes? (Text.byteLength start) (start ++ (gap ++ [])) = some gap := by
        rw [List.append_nil]
        exact Text.dropBytes?_byteLength_append _ _
      have hscan : scan fragment [] = ⟨[], []⟩ := scan_of_firstOccurrence?_eq_none rfl
      rw [finish?, if_neg hend, hdrop, hscan]
      simp [Scan.prepend, Highlighter.markup]
    | cons c rest =>
      have hmore : Text.byteLength (start ++ gap)
          < Text.byteLength (start ++ (gap ++ c :: rest)) := by
        have hpos : 0 < c.utf8Size := c.utf8Size_pos
        simp only [Text.byteLength_append, Text.byteLength_cons]
        omega
      cases hstarts : startsWith fragment (c :: rest) with
      | true =>
        have hcut : c :: rest = (c :: rest).take fragment.length
            ++ (c :: rest).drop fragment.length := (List.take_append_drop _ _).symm
        have hshorter : ((c :: rest).drop fragment.length).length < (c :: rest).length := by
          have hpos : 0 < fragment.length := List.length_pos_iff.2 hfragment
          simp only [List.length_drop, List.length_cons]
          omega
        have hlater := ih _ hshorter (start ++ gap ++ (c :: rest).take fragment.length) []
          ((c :: rest).drop fragment.length)
          (out ++ highlighter.guard gap ++ highlighter.wrap ((c :: rest).take fragment.length)) rfl
        rw [finish?_of_next? highlighter hfragment hmore
            (next?_of_startsWith highlighter start gap out hstarts),
          scan_of_startsWith hfragment hstarts, Highlighter.markup_prepend_cons]
        rw [List.nil_append, List.append_assoc, ← hcut] at hlater
        simpa using hlater
      | false =>
        have hlater := ih _ (Nat.lt_succ_self rest.length) start (gap ++ [c]) rest out rfl
        rw [finish?_of_next? highlighter hfragment hmore
            (next?_of_startsWith_eq_false highlighter start gap out hstarts),
          scan_cons_of_startsWith_eq_false hfragment hstarts, ← Scan.prepend_append]
        simpa using hlater

end Marker

/-- A marker makes the markup of a scan, and every place of it is at the start of a scalar. -/
theorem Highlighter.mark?_eq (highlighter : Highlighter) (fragment field : Text) :
    highlighter.mark? fragment field = some (highlighter.highlight fragment field) := by
  unfold mark? highlight
  by_cases hfragment : fragment = []
  · have hscan : scan fragment field = ⟨[], field⟩ := by rw [scan, if_pos hfragment]
    rw [dif_neg (not_not.2 hfragment), hscan]
    rfl
  · rw [dif_pos hfragment]
    simpa using Marker.finish?_eq highlighter hfragment [] [] field []

/-- The Kelvin sign has three bytes, and the letter that it stands for has one. -/
example : ({} : Highlighter).mark? ['k'] "a\u212akb".toList
    = some "a#green#\u212a##green#k#b".toList := by
  decide +kernel

/-! ## The whole field -/

/-- There is exactly one cut of a field into occurrences of the fragment and gaps in which none
starts, and highlighting writes it down: an occurrence between a directive and a delimiter, a gap as
it is, or taken apart where it would be read as a directive, and the last gap as it is.  Every
occurrence starts within one that was selected, those do not overlap, and each is written letter for
letter as it stands in the field. -/
theorem Highlighter.exists_decomposes (highlighter : Highlighter) (fragment field : Text) :
    let mark : Text := [highlighter.delimiter]
    let wrapped (text : Text) : Text := mark ++ highlighter.color.name ++ mark ++ text ++ mark
    let guarded (gap : Text) : Text :=
      if (Markup.directive? gap).isSome then List.intercalate (mark ++ mark) (gap.map ([·]))
      else gap
    ∃ cut : Scan, Decomposes fragment field cut
      ∧ (∀ other, Decomposes fragment field other → other = cut)
      ∧ highlighter.highlight fragment field
        = (cut.hits.flatMap fun hit => guarded hit.before ++ wrapped hit.text) ++ cut.tail
      ∧ highlighter.mark? fragment field = some (highlighter.highlight fragment field)
      ∧ (∀ place, OccursAt fragment field place → ∃ earlier hit later,
        cut.hits = earlier ++ hit :: later ∧ matchStart earlier hit ≤ place
          ∧ place < matchStart earlier hit + fragment.length)
      ∧ (∀ earlier hit between next later, cut.hits = earlier ++ hit :: (between ++ next :: later) →
        matchStart earlier hit + fragment.length ≤ matchStart (earlier ++ hit :: between) next)
      ∧ ∀ earlier hit later, cut.hits = earlier ++ hit :: later →
        hit.text = (field.drop (matchStart earlier hit)).take fragment.length := by
  intro mark wrapped guarded
  have hcut : Decomposes fragment field (scan fragment field) := decomposes_iff.2 rfl
  refine ⟨scan fragment field, hcut, ?_, rfl, highlighter.mark?_eq fragment field, ?_, ?_, ?_⟩
  · intro other hother
    exact decomposes_iff.1 hother
  · intro place hoccurs
    exact hcut.exists_match hoccurs
  · intro earlier hit between next later hhits
    exact hcut.matchStart_add_le hhits
  · intro earlier hit later hhits
    exact hcut.text_eq hhits

end ColorMarkup

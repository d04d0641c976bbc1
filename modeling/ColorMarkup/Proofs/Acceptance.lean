import Mathlib.Data.List.Basic
import ColorMarkup.Proofs.Trim
import ColorMarkup.Proofs.Tsv

/-!
# Which texts are accepted

A text is accepted if every line of it that is not blank has three fields.  This can be said of the
lines as they stand in the text, for the carriage returns that are dropped at their ends make no
difference to it.  A text that is not accepted is reported with the first line that offends.

* `Tsv.Offends` says which lines these are, and `Tsv.offends_dropEndWhile_iff` leaves the carriage
  returns out of it.
* `Tsv.bad_readLines_cons` is one step of reading; `Tsv.bad_readLines_eq_none_iff` and
  `Tsv.bad_readLines_eq_some_iff` are what comes of all lines.
* `Tsv.bad_read_eq_none_iff` and `Tsv.bad_read_eq_some_iff` say it of the text.
-/

namespace ColorMarkup

namespace Tsv

/-! ## Lines that offend -/

/-- The number of fields that the tabs of a line part. -/
def fieldCount (line : Text) : ℕ :=
  (line.splitOn '\t').length

theorem fieldCount_eq (line : Text) : fieldCount line = line.count '\t' + 1 :=
  Markup.length_tokens '\t' line

/-- A line offends if something other than white space is in it, and it has not three fields. -/
def Offends (line : Text) : Prop :=
  (∃ c ∈ line, Unicode.isWhiteSpace c = false) ∧ fieldCount line ≠ 3

theorem isBlank_eq_false_iff {line : Text} :
    line.isBlank = false ↔ ∃ c ∈ line, Unicode.isWhiteSpace c = false := by
  simp [Text.isBlank]

-- the scalars of the line are looked at, not all scalars that there are
instance : DecidablePred Offends := fun line =>
  decidable_of_iff (line.isBlank = false ∧ fieldCount line ≠ 3)
    (and_congr_left' isBlank_eq_false_iff)

/-- Carriage returns at the end of a line are neither tabs nor anything but white space. -/
theorem fieldCount_dropEndWhile (line : Text) :
    fieldCount (line.dropEndWhile (· == '\r')) = fieldCount line := by
  obtain ⟨dropped, hline, hdropped⟩ := line.exists_dropEndWhile_append (· == '\r')
  have htab : dropped.count '\t' = 0 := by
    rw [List.count_eq_zero]
    intro hmem
    exact absurd (hdropped '\t' hmem) (by decide)
  have hcount : (line.dropEndWhile (· == '\r')).count '\t' = line.count '\t' := by
    calc (line.dropEndWhile (· == '\r')).count '\t'
      _ = (line.dropEndWhile (· == '\r') ++ dropped).count '\t' := by
        rw [List.count_append, htab, Nat.add_zero]
      _ = line.count '\t' := by rw [hline]
  rw [fieldCount_eq, fieldCount_eq, hcount]

theorem offends_dropEndWhile_iff {line : Text} :
    Offends (line.dropEndWhile (· == '\r')) ↔ Offends line := by
  obtain ⟨dropped, hline, hdropped⟩ := line.exists_dropEndWhile_append (· == '\r')
  have hblank : (∃ c ∈ line.dropEndWhile (· == '\r'), Unicode.isWhiteSpace c = false)
      ↔ ∃ c ∈ line, Unicode.isWhiteSpace c = false := by
    constructor
    · rintro ⟨c, hc, hwhite⟩
      exact ⟨c, hline ▸ List.mem_append_left dropped hc, hwhite⟩
    · rintro ⟨c, hc, hwhite⟩
      rw [← hline, List.mem_append] at hc
      rcases hc with hkept | hmem
      · exact ⟨c, hkept, hwhite⟩
      · obtain rfl : c = '\r' := by simpa using hdropped c hmem
        exact absurd hwhite (by decide)
  rw [Offends, hblank, fieldCount_dropEndWhile, Offends]

/-! ## Reading line by line -/

/-- The cells of a line are three fields, or there is another number of them. -/
theorem cells_eq_error {line : Text} (h : fieldCount line ≠ 3) :
    cells line = .error (fieldCount line) := by
  unfold cells
  split
  · next hcut => exact absurd (congrArg List.length hcut) h
  · rfl

theorem exists_cells_eq_ok {line : Text} (h : fieldCount line = 3) :
    ∃ row, cells line = .ok row := by
  obtain ⟨first, second, third, hcut⟩ := List.length_eq_three.1 h
  exact ⟨⟨first, second, third⟩, cells_eq_ok_iff.2 hcut⟩

/-- One step: a line that offends ends the reading, and after any other one it goes on. -/
theorem bad_readLines_cons (number : ℕ) (line : Text) (rest : List Text) :
    (readLines number (line :: rest)).bad
      = if Offends line then some ⟨number, fieldCount line⟩
        else (readLines (number + 1) rest).bad := by
  rw [readLines]
  cases hblank : line.isBlank with
  | true =>
    have hnot : ¬Offends line := by
      intro hoffends
      simp [isBlank_eq_false_iff.2 hoffends.1] at hblank
    simp [hnot]
  | false =>
    have hsome := isBlank_eq_false_iff.1 hblank
    by_cases hcount : fieldCount line = 3
    · obtain ⟨row, hcells⟩ := exists_cells_eq_ok hcount
      have hnot : ¬Offends line := fun hoffends => hoffends.2 hcount
      simp [hcells, hnot]
    · have hoffends : Offends line := ⟨hsome, hcount⟩
      simp [cells_eq_error hcount, hoffends]

/-- All lines are read if none of them offends. -/
theorem bad_readLines_eq_none_iff {number : ℕ} {lines : List Text} :
    (readLines number lines).bad = none ↔ ∀ line ∈ lines, ¬Offends line := by
  induction lines generalizing number with
  | nil => simp [readLines]
  | cons line rest ih =>
    rw [bad_readLines_cons]
    by_cases hoffends : Offends line <;> simp [hoffends, ih]

/-- Reading ends with the first line that offends, which is reported with its number and the number
of its fields. -/
theorem bad_readLines_eq_some_iff {number : ℕ} {lines : List Text} {bad : BadRow} :
    (readLines number lines).bad = some bad
      ↔ ∃ before line after, lines = before ++ line :: after
        ∧ (∀ other ∈ before, ¬Offends other) ∧ Offends line
        ∧ bad = ⟨number + before.length, fieldCount line⟩ := by
  constructor
  · intro h
    induction lines generalizing number with
    | nil => simp [readLines] at h
    | cons first rest ih =>
      rw [bad_readLines_cons] at h
      by_cases hoffends : Offends first
      · rw [if_pos hoffends] at h
        exact ⟨[], first, rest, rfl, by simp, hoffends, (Option.some.inj h).symm⟩
      · rw [if_neg hoffends] at h
        obtain ⟨before, line, after, rfl, hbefore, hline, rfl⟩ := ih h
        refine ⟨first :: before, line, after, rfl, ?_, hline, ?_⟩
        · simpa [hoffends] using hbefore
        · rw [List.length_cons]
          congr 1
          omega
  · rintro ⟨before, line, after, rfl, hbefore, hline, rfl⟩
    induction before generalizing number with
    | nil => rw [List.nil_append, bad_readLines_cons, if_pos hline]; rfl
    | cons first before ih =>
      have hfirst : ¬Offends first := hbefore first List.mem_cons_self
      rw [List.cons_append, bad_readLines_cons, if_neg hfirst,
        ih fun other hother => hbefore other (List.mem_cons_of_mem _ hother), List.length_cons]
      congr 2
      omega

/-! ## Reading a text -/

/-- Carriage returns at the ends of the lines make no difference. -/
theorem bad_readLines_map (number : ℕ) (lines : List Text) :
    (readLines number (lines.map (Text.dropEndWhile (· == '\r')))).bad
      = (readLines number lines).bad := by
  induction lines generalizing number with
  | nil => rfl
  | cons line rest ih =>
    simp only [List.map_cons, bad_readLines_cons, offends_dropEndWhile_iff,
      fieldCount_dropEndWhile, ih]

/-- A text is accepted if no line of it offends. -/
theorem bad_read_eq_none_iff {input : Text} :
    (read input).bad = none ↔ ∀ line ∈ input.splitOn '\n', ¬Offends line := by
  rw [read, lines, bad_readLines_map, bad_readLines_eq_none_iff]

/-- A text that is not accepted is reported with the first line that offends, counted from 1 on,
and the number of fields in it. -/
theorem bad_read_eq_some_iff {input : Text} {bad : BadRow} :
    (read input).bad = some bad
      ↔ ∃ before line after, input.splitOn '\n' = before ++ line :: after
        ∧ (∀ other ∈ before, ¬Offends other) ∧ Offends line
        ∧ bad = ⟨1 + before.length, fieldCount line⟩ := by
  rw [read, lines, bad_readLines_map, bad_readLines_eq_some_iff]

end Tsv

end ColorMarkup

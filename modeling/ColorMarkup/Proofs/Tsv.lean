import ColorMarkup.Proofs.Token
import ColorMarkup.Table.Tsv

/-!
# What is read of a tab-separated text

The lines that are not blank, cut at their tabs: these are the rows if each of them has three
fields, and then the text is accepted.

* `rowLines` are the lines that count;
* `map_toList_rows_read` says that they are what is read;
* `Table.ofTsv_eq_ok_iff` says when that makes a table, and which one.
-/

namespace ColorMarkup

namespace Tsv

/-- The lines of a text that are not blank. -/
def rowLines (input : Text) : List Text :=
  (lines input).filter fun line => !line.isBlank

theorem cells_eq_ok_iff {line : Text} {row : Columns Text} :
    cells line = .ok row ↔ line.splitOn '\t' = row.toList := by
  obtain ⟨first, second, third⟩ := row
  unfold cells
  split
  · next hcut =>
    rw [hcut]
    simp [Columns.toList]
  · next hcut =>
    refine iff_of_false (by simp) ?_
    intro hsplit
    exact hcut first second third hsplit

/-- The rows are the lines that are not blank, unless one of them is bad. -/
theorem map_toList_rows_readLines {number : ℕ} {lines : List Text}
    (h : (readLines number lines).bad = none) :
    (readLines number lines).rows.map Columns.toList
      = (lines.filter fun line => !line.isBlank).map (List.splitOn '\t') := by
  fun_induction readLines number lines with
  | case1 => rfl
  | case2 number line rest hblank ih => simpa [hblank] using ih h
  | case3 number line rest hblank fields hcells => exact absurd h (by simp)
  | case4 number line rest hblank row hcells later ih =>
    have hcut : line.splitOn '\t' = row.toList := cells_eq_ok_iff.1 hcells
    simpa [hblank, hcut] using ih h

theorem map_toList_rows_read {input : Text} (h : (read input).bad = none) :
    (read input).rows.map Columns.toList = (rowLines input).map (List.splitOn '\t') :=
  map_toList_rows_readLines h

/-! ## The scalars of a row -/

theorem mem_of_mem_lines {input line : Text} {c : Char} (h : line ∈ lines input) (hc : c ∈ line) :
    c ∈ input := by
  obtain ⟨whole, hwhole, rfl⟩ := List.mem_map.1 h
  have hmem : c ∈ whole := by
    unfold Text.dropEndWhile at hc
    have hdrop := (List.dropWhile_suffix (· == '\r')).subset (List.mem_reverse.1 hc)
    exact List.mem_reverse.1 hdrop
  exact Markup.mem_of_mem_tokens hwhole hmem

/-- The fields of the rows hold no scalar that the text does not hold. -/
theorem not_mem_of_mem_rows {delimiter : Char} {input : Text} (h : delimiter ∉ input)
    {rows : List (Columns Text)}
    (hrows : rows.map Columns.toList = (rowLines input).map (List.splitOn '\t'))
    {row : Columns Text} (hrow : row ∈ rows) {field : Text} (hfield : field ∈ row.toList) :
    delimiter ∉ field := by
  have hmem : row.toList ∈ rows.map Columns.toList := List.mem_map_of_mem hrow
  rw [hrows] at hmem
  obtain ⟨line, hline, hcut⟩ := List.mem_map.1 hmem
  rw [← hcut] at hfield
  -- a field is a piece of its line, and a line is a piece of the text
  intro hdelimiter
  have hinLine : delimiter ∈ line := Markup.mem_of_mem_tokens hfield hdelimiter
  exact h (mem_of_mem_lines (List.mem_filter.1 hline).1 hinLine)

end Tsv

/-! ## The table -/

namespace Table

/-- A text with no bad line is accepted, and no other. -/
theorem ofTsv_eq_ok_iff {highlighter : Highlighter} {fragment input : Text} {table : Table} :
    ofTsv highlighter fragment input = .ok table
      ↔ (Tsv.read input).bad = none
        ∧ ofRows highlighter fragment (Tsv.read input).rows = table := by
  unfold ofTsv
  cases hbad : (Tsv.read input).bad with
  | none => simp [hbad]
  | some bad => simp [hbad]

theorem ofTsv_eq_error_iff {highlighter : Highlighter} {fragment input : Text} {bad : Tsv.BadRow} :
    ofTsv highlighter fragment input = .error bad ↔ (Tsv.read input).bad = some bad := by
  unfold ofTsv
  cases hbad : (Tsv.read input).bad with
  | none => simp [hbad]
  | some other => simp [hbad]

section Rows

variable (highlighter : Highlighter) (fragment : Text) (rows : List (Columns Text))

@[simp] theorem headers_ofRows :
    (ofRows highlighter fragment rows).headers = rows.headD ⟨[], [], []⟩ := by
  cases rows <;> rfl

@[simp] theorem rows_ofRows :
    (ofRows highlighter fragment rows).rows
      = rows.tail.map (Columns.map (highlighter.highlight fragment)) := by
  cases rows <;> rfl

@[simp] theorem delimiter_ofRows :
    (ofRows highlighter fragment rows).delimiter = highlighter.delimiter := by
  cases rows <;> rfl

end Rows

end Table

end ColorMarkup

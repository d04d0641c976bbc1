import Mathlib.Data.Fintype.Basic
import Mathlib.GroupTheory.Perm.Basic
import ColorMarkup.Proofs.Alignment

/-!
# Rows in another order, and one row more

The widths of the columns are maxima over all rows, so the order of the rows decides nothing but the
order of their lines, and a row that is added can only widen the columns.  A column that has become
wider shows it in every line at the same place, by spaces after its cell or by dashes in the rule.

* `widths_reordered` and `widths_addRow` say what becomes of the widths.
* `padded_of_le` is what widening does to one cell: no cell is wider than its column, so the spaces
  that are added are exactly those by which the column has grown.
* `lines_rows` says what becomes of the lines.
-/

namespace ColorMarkup

/-! ## Widths -/

namespace Columns

/-- No column of `a` is wider than that of `b`. -/
def NoWider (a b : Columns ℕ) : Prop :=
  a.first ≤ b.first ∧ a.second ≤ b.second ∧ a.third ≤ b.third

instance (a b : Columns ℕ) : Decidable (a.NoWider b) :=
  inferInstanceAs (Decidable (_ ∧ _ ∧ _))

theorem zipWith_max_right_comm (a b c : Columns ℕ) :
    (a.zipWith max b).zipWith max c = (a.zipWith max c).zipWith max b := by
  simp only [zipWith, max_right_comm]

theorem noWider_zipWith_max (a b : Columns ℕ) : a.NoWider (a.zipWith max b) :=
  ⟨le_max_left _ _, le_max_left _ _, le_max_left _ _⟩

theorem zipWith_max_eq_left {a b : Columns ℕ} (h : b.NoWider a) : a.zipWith max b = a := by
  obtain ⟨hfirst, hsecond, hthird⟩ := h
  rw [zipWith, max_eq_left hfirst, max_eq_left hsecond, max_eq_left hthird]

end Columns

namespace Table

open Markup

variable {width : Text → ℕ}

/-- The table with its rows in another order: the row at place `i` was at place `order i`. -/
def reordered (table : Table) (order : Equiv.Perm (Fin table.rows.length)) : Table :=
  { table with rows := List.ofFn fun i => table.rows[order i] }

theorem rows_reordered_perm (table : Table) (order : Equiv.Perm (Fin table.rows.length)) :
    (table.reordered order).rows.Perm table.rows := by
  have hperm := Equiv.Perm.ofFn_comp_perm order fun i => table.rows[i]
  have hsame : List.ofFn (fun i : Fin table.rows.length => table.rows[i]) = table.rows :=
    List.ofFn_getElem
  rw [hsame] at hperm
  exact hperm

/-- The order of the rows does not matter to the widths. -/
theorem widths_reordered (table : Table) (order : Equiv.Perm (Fin table.rows.length)) :
    (table.reordered order).widths width = table.widths width := by
  unfold widths
  apply (table.rows_reordered_perm order).foldl_eq'
  intro x _ y _ widest
  exact Columns.zipWith_max_right_comm widest _ _

/-- Each column becomes as wide as the new cell, unless it is so already. -/
theorem widths_addRow (table : Table) (row : Columns Text) :
    (table.addRow row).widths width
      = (table.widths width).zipWith max (row.map (table.cellWidth width)) := by
  unfold widths addRow
  rw [List.foldl_append]
  rfl

/-- No cell is wider than its column. -/
theorem noWider_widths {table : Table} {row : Columns Text}
    (h : row ∈ table.headers :: table.rows) :
    (row.map (table.cellWidth width)).NoWider (table.widths width) := by
  have hmem : row.map (visible table.delimiter)
      ∈ (table.headers :: table.rows).map (Columns.map (visible table.delimiter)) :=
    List.mem_map_of_mem h
  rw [widths_eq]
  exact ⟨le_widest (List.mem_map_of_mem hmem), le_widest (List.mem_map_of_mem hmem),
    le_widest (List.mem_map_of_mem hmem)⟩

/-! ## Lines as columns -/

/-- Three columns of a line, with the space between them. -/
def joined (columns : Columns Text) : Text :=
  columns.first ++ gutter ++ columns.second ++ gutter ++ columns.third

/-- The columns with some more of a character at the end of each. -/
def widened (c : Char) (columns : Columns Text) (growth : Columns ℕ) : Columns Text :=
  columns.zipWith (fun text count => text ++ List.replicate count c) growth

/-- A row as its line shows it: the first two cells padded, the third as it is. -/
def paddedRow (width : Text → ℕ) (table : Table) (widths : Columns ℕ) (row : Columns Text) :
    Columns Text :=
  ⟨table.padded width widths.first row.first, table.padded width widths.second row.second,
    row.third⟩

/-- The rule as columns of dashes. -/
def dashes (widths : Columns ℕ) : Columns Text :=
  widths.map fun count => List.replicate count '-'

theorem rowLine_eq_joined (table : Table) (widths : Columns ℕ) (row : Columns Text) :
    table.rowLine width widths row = joined (table.paddedRow width widths row) := by
  simp only [rowLine, joined, paddedRow, List.append_assoc]

theorem ruleLine_eq_joined (widths : Columns ℕ) : ruleLine widths = joined (dashes widths) := by
  rw [ruleLine_eq]
  rfl

/-- By how much each column is wider in `after` than in `before`. -/
def growth (before after : Columns ℕ) : Columns ℕ :=
  after.zipWith (· - ·) before

/-- By how much the cells of a row are padded more; the third is not padded. -/
def padding (before after : Columns ℕ) : Columns ℕ :=
  { growth before after with third := 0 }

/-- A cell that fits into its column is followed by as many spaces more as the column grows. -/
theorem padded_of_le {table : Table} {cell : Text} {before after : ℕ}
    (hcell : table.cellWidth width cell ≤ before) (hgrown : before ≤ after) :
    table.padded width after cell
      = table.padded width before cell ++ List.replicate (after - before) ' ' := by
  have hcount : after - table.cellWidth width cell
      = before - table.cellWidth width cell + (after - before) := by omega
  rw [padded, hcount, ← List.replicate_append_replicate, ← List.append_assoc, padded]

theorem paddedRow_of_noWider {table : Table} {row : Columns Text} {before after : Columns ℕ}
    (hrow : (row.map (table.cellWidth width)).NoWider before) (hgrown : before.NoWider after) :
    table.paddedRow width after row
      = widened ' ' (table.paddedRow width before row) (padding before after) := by
  have hfirst := padded_of_le hrow.1 hgrown.1
  have hsecond := padded_of_le hrow.2.1 hgrown.2.1
  rw [paddedRow, hfirst, hsecond]
  simp [widened, paddedRow, Columns.zipWith, padding, growth]

theorem dashes_of_noWider {before after : Columns ℕ} (h : before.NoWider after) :
    dashes after = widened '-' (dashes before) (growth before after) := by
  obtain ⟨hfirst, hsecond, hthird⟩ := h
  simp [dashes, widened, Columns.map, Columns.zipWith, growth, List.replicate_append_replicate,
    Nat.add_sub_cancel' hfirst, Nat.add_sub_cancel' hsecond, Nat.add_sub_cancel' hthird]

/-- The lines of a table, column by column. -/
theorem lines_eq_joined (table : Table) :
    table.lines width
      = joined (table.paddedRow width (table.widths width) table.headers)
        :: joined (dashes (table.widths width))
        :: table.rows.map fun row => joined (table.paddedRow width (table.widths width) row) := by
  have hrows : table.rows.map (table.rowLine width (table.widths width))
      = table.rows.map fun row => joined (table.paddedRow width (table.widths width) row) :=
    List.map_congr_left fun row _ => table.rowLine_eq_joined (table.widths width) row
  rw [lines, rowLine_eq_joined, ruleLine_eq_joined, hrows]

/-- The lines of the rows stand in the order of the rows, under the same two lines. -/
theorem lines_reordered (table : Table) (order : Equiv.Perm (Fin table.rows.length)) :
    (table.reordered order).lines width
      = table.rowLine width (table.widths width) table.headers :: ruleLine (table.widths width)
        :: List.ofFn fun i => table.rowLine width (table.widths width) table.rows[order i] := by
  rw [lines, widths_reordered]
  simp only [reordered, List.map_ofFn]
  rfl

/-- The lines after one row more: what was there grows with its columns, and one line follows. -/
theorem lines_addRow (table : Table) (row : Columns Text) :
    let before := table.widths width
    let after := (table.addRow row).widths width
    let spaces := padding before after
    (table.addRow row).lines width
      = joined (widened ' ' (table.paddedRow width before table.headers) spaces)
        :: joined (widened '-' (dashes before) (growth before after))
        :: table.rows.map
            (fun entry => joined (widened ' ' (table.paddedRow width before entry) spaces))
          ++ [joined (table.paddedRow width after row)] := by
  intro before after spaces
  have hgrown : before.NoWider after := by
    show before.NoWider ((table.addRow row).widths width)
    rw [widths_addRow]
    exact Columns.noWider_zipWith_max before _
  have hpadded (entry : Columns Text) (hentry : entry ∈ table.headers :: table.rows) :
      table.paddedRow width after entry
        = widened ' ' (table.paddedRow width before entry) spaces :=
    paddedRow_of_noWider (noWider_widths hentry) hgrown
  have hrows : table.rows.map (fun entry => joined (table.paddedRow width after entry))
      = table.rows.map fun entry =>
        joined (widened ' ' (table.paddedRow width before entry) spaces) := by
    apply List.map_congr_left
    intro entry hentry
    rw [hpadded entry (List.mem_cons_of_mem _ hentry)]
  rw [lines_eq_joined]
  show joined (table.paddedRow width after table.headers) :: joined (dashes after)
      :: (table.rows ++ [row]).map (fun entry => joined (table.paddedRow width after entry)) = _
  rw [hpadded table.headers List.mem_cons_self, dashes_of_noWider hgrown, List.map_append, hrows]
  rfl

/-- In another order the rows have the same lines, in that order, under the same header and the same
rule.  With one row more no column is narrower; if the row fits, its line is all that is new; and in
any case each line is what it was, with spaces, or dashes for the rule, after each column that has
grown, as many as it has grown by. -/
theorem lines_rows (width : Text → ℕ) (table : Table) :
    (∃ (header rule : Text) (entries : Fin table.rows.length → Text),
        table.lines width = header :: rule :: List.ofFn entries
          ∧ ∀ order : Equiv.Perm (Fin table.rows.length),
            (table.reordered order).lines width
              = header :: rule :: List.ofFn fun i => entries (order i))
      ∧ ∀ row : Columns Text,
        let before := table.widths width
        let after := (table.addRow row).widths width
        let spaces := padding before after
        let shown := table.paddedRow width before
        before.NoWider after
          ∧ ((row.map (table.cellWidth width)).NoWider before →
            (table.addRow row).lines width = table.lines width ++ [joined (shown row)])
          ∧ table.lines width
            = joined (shown table.headers) :: joined (dashes before)
              :: table.rows.map (fun entry => joined (shown entry))
          ∧ (table.addRow row).lines width
            = joined (widened ' ' (shown table.headers) spaces)
              :: joined (widened '-' (dashes before) (growth before after))
              :: table.rows.map (fun entry => joined (widened ' ' (shown entry) spaces))
                ++ [joined (table.paddedRow width after row)] := by
  constructor
  · refine ⟨table.rowLine width (table.widths width) table.headers,
      ruleLine (table.widths width),
      fun i => table.rowLine width (table.widths width) table.rows[i], ?_, ?_⟩
    · rw [lines, ← List.ofFn_getElem_eq_map]
      rfl
    · intro order
      exact table.lines_reordered order
  · intro row before after spaces shown
    refine ⟨?_, ?_, lines_eq_joined table, lines_addRow table row⟩
    · show before.NoWider ((table.addRow row).widths width)
      rw [widths_addRow]
      exact Columns.noWider_zipWith_max before _
    · intro hfits
      have hwidths : (table.addRow row).widths width = table.widths width := by
        rw [widths_addRow]
        exact Columns.zipWith_max_eq_left hfits
      rw [lines_eq_joined, hwidths, lines_eq_joined]
      show _ :: _ :: (table.rows ++ [row]).map (fun entry => joined (shown entry)) = _
      rw [List.map_append]
      rfl

/-- A row with a cell in color fits into the columns, and another one widens two of them. -/
theorem lines_rows_of_colored_cell :
    let table : Table :=
      { headers := ⟨"#red#Name#".toList, "Id".toList, "Path".toList⟩
        rows := [⟨"ab".toList, "1".toList, "c".toList⟩] }
    let fitting : Columns Text := ⟨"#green#abc#".toList, "2".toList, "d".toList⟩
    let wider : Columns Text := ⟨"#green#abcde#".toList, "2".toList, "#red#".toList⟩
    (fitting.map (table.cellWidth List.length)).NoWider (table.widths List.length)
      ∧ (table.addRow fitting).lines List.length
        = ["#red#Name#  Id  Path".toList, "----  --  ----".toList, "ab    1   c".toList,
            "#green#abc#   2   d".toList]
      ∧ (table.addRow wider).lines List.length
        = ["#red#Name#   Id  Path".toList, "-----  --  ----".toList, "ab     1   c".toList,
            "#green#abcde#  2   #red#".toList] := by
  intro table fitting wider
  have hfits : (fitting.map (table.cellWidth List.length)).NoWider (table.widths List.length) := by
    decide
  have hfitting := ((lines_rows List.length table).2 fitting).2.1 hfits
  have hwider := ((lines_rows List.length table).2 wider).2.2.2
  exact ⟨hfits, hfitting.trans (by decide), hwider.trans (by decide)⟩

end Table

end ColorMarkup

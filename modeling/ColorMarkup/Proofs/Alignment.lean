import ColorMarkup.Proofs.Join
import ColorMarkup.Table

/-!
# The columns of a table

A table is laid out as markup, and the widths of its cells are those of what is visible of each
cell alone.  Once the lines are stripped of their markup, they are the plain layout of the stripped
cells: a line is no sum of its cells, but the spaces between two cells separate them, whatever the
markup of the cells leaves open.

* `alignedLine`, `plainRule` and `plainLines` are the plain layout, with `widest` for its columns;
* `widths_eq` and `visible_rowLine` compare the layout of a table with it;
* `visible_lines` is the comparison of all lines, for every delimiter.
-/

namespace ColorMarkup

theorem Columns.toList_injective {α : Type} :
    Function.Injective (Columns.toList (α := α)) := by
  rintro ⟨first, second, third⟩ ⟨_, _, _⟩ h
  simpa [toList] using h

theorem Columns.map_id {α : Type} (row : Columns α) : row.map id = row := rfl

theorem Columns.map_eq_self {α : Type} {f : α → α} {row : Columns α}
    (h : ∀ x ∈ row.toList, f x = x) : row.map f = row := by
  obtain ⟨first, second, third⟩ := row
  obtain ⟨hfirst, hsecond, hthird⟩ : f first = first ∧ f second = second ∧ f third = third := by
    simpa [toList] using h
  rw [map, hfirst, hsecond, hthird]

namespace Table

open Markup

variable (width : Text → ℕ)

/-! ## Plain layout -/

/-- The width of the widest of some texts. -/
def widest (texts : List Text) : ℕ :=
  (texts.map width).foldr max 0

/-- The widths of the columns that some rows of plain cells make. -/
def plainWidths (rows : List (Columns Text)) : Columns ℕ :=
  ⟨widest width (rows.map Columns.first), widest width (rows.map Columns.second),
    widest width (rows.map Columns.third)⟩

/-- Three cells of the given sizes under columns of the given widths: the first two are padded, and
two blanks stand between columns. -/
def alignedLine {α : Type} (blank : α) (widths sizes : Columns ℕ) (cells : Columns (List α)) :
    List α :=
  cells.first ++ List.replicate (widths.first - sizes.first) blank ++ [blank, blank]
    ++ cells.second ++ List.replicate (widths.second - sizes.second) blank ++ [blank, blank]
    ++ cells.third

/-- A row of plain cells as a line. -/
def plainLine (widths : Columns ℕ) (row : Columns Text) : Text :=
  alignedLine ' ' widths (row.map width) row

/-- The rule under the headers. -/
def plainRule (widths : Columns ℕ) : Text :=
  List.replicate widths.first '-' ++ [' ', ' '] ++ List.replicate widths.second '-' ++ [' ', ' ']
    ++ List.replicate widths.third '-'

/-- A table of plain cells as lines. -/
def plainLines (headers : Columns Text) (entries : List (Columns Text)) : List Text :=
  let widths := plainWidths width (headers :: entries)
  plainLine width widths headers :: plainRule widths :: entries.map (plainLine width widths)

variable {width}

theorem le_widest {texts : List Text} {text : Text} (h : text ∈ texts) :
    width text ≤ widest width texts := by
  induction texts with
  | nil => exact absurd h List.not_mem_nil
  | cons first rest ih =>
    have hcons : widest width (first :: rest) = max (width first) (widest width rest) := rfl
    rw [hcons]
    rcases List.mem_cons.1 h with rfl | hrest
    · exact le_max_left _ _
    · exact le_trans (ih hrest) (le_max_right _ _)

/-! ## The widths of a table -/

private theorem foldl_zipWith_max (size : Text → ℕ) (rows : List (Columns Text))
    (start : Columns ℕ) :
    rows.foldl (fun widest row => widest.zipWith max (row.map size)) start
      = start.zipWith max
        ⟨((rows.map Columns.first).map size).foldr max 0,
          ((rows.map Columns.second).map size).foldr max 0,
          ((rows.map Columns.third).map size).foldr max 0⟩ := by
  induction rows generalizing start with
  | nil => simp [Columns.zipWith]
  | cons row rows ih =>
    rw [List.foldl_cons, ih]
    simp [Columns.zipWith, Columns.map, max_assoc]

/-- Each column is as wide as the widest of its stripped cells. -/
theorem widths_eq (width : Text → ℕ) (table : Table) :
    table.widths width
      = plainWidths width
        ((table.headers :: table.rows).map (Columns.map (visible table.delimiter))) := by
  rw [widths, foldl_zipWith_max]
  simp [plainWidths, widest, Columns.zipWith, Columns.map, cellWidth, Function.comp_def]

/-! ## The lines of a table -/

theorem separates_padding {delimiter : Char} (h : delimiter ≠ ' ') (count : ℕ) :
    Separates delimiter (List.replicate count ' ' ++ gutter) where
  not_mem := by simp [gutter, h]
  exists_mark := ⟨' ', by simp [gutter], by decide, by decide⟩

/-- The line for a row, as its cells with separators between them. -/
theorem rowLine_eq (width : Text → ℕ) (table : Table) (widths : Columns ℕ) (row : Columns Text) :
    table.rowLine width widths row
      = row.first ++ (List.replicate (widths.first - table.cellWidth width row.first) ' ' ++ gutter
        ++ (row.second ++ (List.replicate (widths.second - table.cellWidth width row.second) ' '
          ++ gutter ++ row.third))) := by
  simp [rowLine, padded]

/-- A row, stripped, is the plain line of its stripped cells. -/
theorem visible_rowLine {table : Table} (h : table.delimiter ≠ ' ') (widths : Columns ℕ)
    (row : Columns Text) :
    visible table.delimiter (table.rowLine width widths row)
      = plainLine width widths (row.map (visible table.delimiter)) := by
  have hfirst := separates_padding h (widths.first - table.cellWidth width row.first)
  have hsecond := separates_padding h (widths.second - table.cellWidth width row.second)
  rw [rowLine_eq, visible_append hfirst, visible_append hsecond]
  simp [plainLine, alignedLine, Columns.map, cellWidth, gutter]

theorem ruleLine_eq (widths : Columns ℕ) : ruleLine widths = plainRule widths := by
  simp [ruleLine, plainRule, Columns.toList, gutter, List.intercalate_cons_cons]

theorem not_mem_plainRule {delimiter : Char} (hspace : delimiter ≠ ' ') (hdash : delimiter ≠ '-')
    (widths : Columns ℕ) : delimiter ∉ plainRule widths := by
  simp [plainRule, hspace, hdash]

/-- The lines of a table, stripped, are the plain layout of its stripped cells, unless the delimiter
is one of the two scalars that the layout itself writes. -/
theorem map_visible_lines {table : Table} (hspace : table.delimiter ≠ ' ')
    (hdash : table.delimiter ≠ '-') :
    (table.lines width).map (visible table.delimiter)
      = plainLines width (table.headers.map (visible table.delimiter))
        (table.rows.map (Columns.map (visible table.delimiter))) := by
  have hrule : visible table.delimiter (ruleLine (table.widths width))
      = plainRule (table.widths width) := by
    rw [ruleLine_eq]
    exact visible_of_not_mem (not_mem_plainRule hspace hdash _)
  unfold lines plainLines
  simp only [List.map_cons, List.map_map, hrule, visible_rowLine hspace, Function.comp_def]
  simp [widths_eq]

theorem space_mem_of_mem_plainLines {headers : Columns Text} {entries : List (Columns Text)}
    {line : Text} (h : line ∈ plainLines width headers entries) : ' ' ∈ line := by
  unfold plainLines at h
  rcases List.mem_cons.1 h with rfl | h
  · simp [plainLine, alignedLine]
  · rcases List.mem_cons.1 h with rfl | h
    · simp [plainRule]
    · obtain ⟨row, -, rfl⟩ := List.mem_map.1 h
      simp [plainLine, alignedLine]

theorem dash_mem_plainRule {widths : Columns ℕ}
    (h : 0 < widths.first ∨ 0 < widths.second ∨ 0 < widths.third) : '-' ∈ plainRule widths := by
  have hne : widths.first ≠ 0 ∨ widths.second ≠ 0 ∨ widths.third ≠ 0 := by omega
  simp only [plainRule, List.mem_append, List.mem_replicate]
  tauto

/-- The cells of a table are aligned, whatever their markup and whatever the width of a text is
taken to be.  Of the delimiters only the blank and the dash are exceptions, and they always are. -/
theorem visible_lines (width : Text → ℕ) (table : Table) :
    let strip := Columns.map (visible table.delimiter)
    let headers := strip table.headers
    let entries := table.rows.map strip
    let widths := plainWidths width (headers :: entries)
    (table.lines width).length = table.rows.length + 2
      ∧ (∀ row ∈ headers :: entries, width row.first ≤ widths.first
        ∧ width row.second ≤ widths.second ∧ width row.third ≤ widths.third)
      ∧ (table.delimiter ≠ ' ' → table.delimiter ≠ '-' →
        (table.lines width).map (visible table.delimiter)
          = plainLine width widths headers :: plainRule widths
            :: entries.map (plainLine width widths))
      ∧ (table.delimiter = ' ' → ∀ line ∈ table.lines width,
        ∀ plain ∈ plainLines width headers entries, visible table.delimiter line ≠ plain)
      ∧ (table.delimiter = '-' → 0 < widths.first ∨ 0 < widths.second ∨ 0 < widths.third →
        ∃ rule, (table.lines width)[1]? = some rule
          ∧ visible table.delimiter rule ≠ plainRule widths) := by
  intro strip headers entries widths
  refine ⟨by simp [lines], ?_, ?_, ?_, ?_⟩
  · intro row hrow
    exact ⟨le_widest (List.mem_map_of_mem hrow), le_widest (List.mem_map_of_mem hrow),
      le_widest (List.mem_map_of_mem hrow)⟩
  · intro hspace hdash
    exact map_visible_lines hspace hdash
  · intro hspace line _ plain hplain heq
    -- the plain lines have blanks, and no stripped line has its delimiter
    have hmem := space_mem_of_mem_plainLines hplain
    rw [← heq, ← hspace] at hmem
    exact not_mem_visible _ _ hmem
  · -- the plain rule has a dash, and the stripped rule has none
    intro hdash hpos
    refine ⟨ruleLine (table.widths width), rfl, ?_⟩
    intro heq
    have hmem := dash_mem_plainRule hpos
    rw [← heq, ← hdash] at hmem
    exact not_mem_visible _ _ hmem

/-- A header in color, and a cell that ends in what would be a directive if anything followed. -/
theorem visible_lines_of_open_cell :
    let table : Table :=
      { headers := ⟨"#red#Name#".toList, "Id".toList, "Path".toList⟩
        rows := [⟨"ab#red".toList, "1".toList, "c".toList⟩] }
    (table.lines List.length).map (visible '#')
      = ["Name   Id  Path".toList, "-----  --  ----".toList, "abred  1   c".toList] := by
  intro table
  have haligned := (visible_lines List.length table).2.2.1 (by decide) (by decide)
  exact haligned.trans (by decide)

end Table

end ColorMarkup

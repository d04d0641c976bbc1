import ColorMarkup.Markup.Item

/-!
# Tables

A table has three columns of markup cells under a row of headers.  It is laid out as markup lines:
the headers, a rule, then the rows, with the first two columns padded to a common width.  A cell is
as wide as the text that stays visible of it, so directives do not count; how wide a text is, is
left open here and is a parameter of the layout.  This file holds

* `Columns`, three things in a row, and `Table`;
* `Table.widths` and `Table.lines`, the layout;
* `Table.layoutRecords`, what there is to tell about measuring the cells.
-/

namespace ColorMarkup

/-! ## Rows -/

/-- One thing for each of the three columns. -/
structure Columns (α : Type) where
  first : α
  second : α
  third : α
  deriving DecidableEq, Repr

namespace Columns

variable {α β γ : Type}

/-- Applies a function in every column. -/
def map (f : α → β) (row : Columns α) : Columns β :=
  ⟨f row.first, f row.second, f row.third⟩

/-- Combines two rows column by column. -/
def zipWith (f : α → β → γ) (a : Columns α) (b : Columns β) : Columns γ :=
  ⟨f a.first b.first, f a.second b.second, f a.third b.third⟩

/-- The three things in order. -/
def toList (row : Columns α) : List α :=
  [row.first, row.second, row.third]

end Columns

/-- Markup cells in three columns under headers. -/
structure Table where
  headers : Columns Text := ⟨[], [], []⟩
  rows : List (Columns Text) := []
  /-- The delimiter of the markup in the cells. -/
  delimiter : Char := '#'
  deriving DecidableEq, Repr

namespace Table

/-- The table with one more row at its end. -/
def addRow (table : Table) (row : Columns Text) : Table :=
  { table with rows := table.rows ++ [row] }

/-! ## Layout -/

/-- The space between two columns. -/
def gutter : Text := [' ', ' ']

variable (width : Text → Nat)

/-- The width of what is visible of a cell. -/
def cellWidth (table : Table) (cell : Text) : Nat :=
  width (Markup.visible table.delimiter cell)

/-- The widths of the columns: each is as wide as its widest cell, the header included. -/
def widths (table : Table) : Columns Nat :=
  table.rows.foldl (fun widest row => widest.zipWith max (row.map (table.cellWidth width)))
    (table.headers.map (table.cellWidth width))

/-- A cell with spaces after it, up to the width of its column. -/
def padded (table : Table) (columnWidth : Nat) (cell : Text) : Text :=
  cell ++ List.replicate (columnWidth - table.cellWidth width cell) ' '

/-- The line for a row under columns of the given widths.  The last cell needs no padding. -/
def rowLine (table : Table) (widths : Columns Nat) (row : Columns Text) : Text :=
  table.padded width widths.first row.first ++ gutter
    ++ (table.padded width widths.second row.second ++ gutter ++ row.third)

/-- The rule under the headers: a dash for every place of a column. -/
def ruleLine (widths : Columns Nat) : Text :=
  List.intercalate gutter (widths.toList.map (List.replicate · '-'))

/-- The table as markup lines. -/
def lines (table : Table) : List Text :=
  let widths := table.widths width
  table.rowLine width widths table.headers :: ruleLine widths
    :: table.rows.map (table.rowLine width widths)

/-- What there is to tell about laying the table out.  Every cell is measured for the width of its
column; then the cells that are padded are measured once more, row by row. -/
def layoutRecords (table : Table) : List Log.Record :=
  let records := Markup.records table.delimiter
  let all := table.headers :: table.rows
  (all.flatMap fun row => row.toList.flatMap records)
    ++ all.flatMap fun row => records row.first ++ records row.second

end Table

end ColorMarkup

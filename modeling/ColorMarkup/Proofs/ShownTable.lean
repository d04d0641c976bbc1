import ColorMarkup.Proofs.Alignment
import ColorMarkup.Proofs.Highlighting
import ColorMarkup.Proofs.Tsv
import ColorMarkup.Show

/-!
# What is seen of a table

From the text to the console: the table that is shown is the plain layout of the fields in the text,
all in the default colors but for the occurrences of the fragment in the rows below the headers.
Highlighting adds markup to the cells, the layout measures and joins the cells with their markup,
and rendering reads whole lines; none of it is seen in the end.

* `lineGlyphs_rowLine` is what is seen of a row whose cells end in the default colors;
* `tableGlyphs` is what is to be seen, and `glyphs_lines` what is seen of the lines of a table;
* `glyphs_showTable` is the whole way.
-/

namespace ColorMarkup

open Markup

/-! ## One row -/

/-- A markup cell for a field: the field is what is visible of it, it is seen as it should be, and
it ends in the default colors. -/
structure Shows (config : Config) (cell field : Text) (picture : List Glyph) : Prop where
  visible_eq : visible config.delimiter cell = field
  lineGlyphs_eq : lineGlyphs config cell = picture
  lastPaint_eq : lastPaint config cell = config.defaults

/-- A field without a delimiter can stand for itself. -/
theorem shows_of_not_mem {config : Config} {field : Text} (h : config.delimiter ∉ field) :
    Shows config field field (config.defaults.glyphs field) :=
  ⟨visible_of_not_mem h, lineGlyphs_of_not_mem h, lastPaint_of_not_mem h⟩

/-- A highlighted field shows the field with its occurrences in color. -/
theorem shows_highlight {highlighter : Highlighter} {config : Config}
    (hshared : highlighter.delimiter = config.delimiter)
    (hname : highlighter.delimiter ∉ highlighter.color.name) (fragment : Text) {field : Text}
    (h : highlighter.delimiter ∉ field) :
    Shows config (highlighter.highlight fragment field) field
      (highlighter.fieldGlyphs config fragment field) where
  visible_eq := by
    rw [← hshared]
    exact Highlighter.visible_highlight hname fragment h
  lineGlyphs_eq := Highlighter.lineGlyphs_highlight hshared hname fragment h
  lastPaint_eq := Highlighter.lastPaint_highlight hshared hname fragment h

/-- A row of cells for some fields is seen as the fields are to be seen, aligned by the widths of
the fields, with blanks in the default colors between them. -/
theorem lineGlyphs_rowLine (table : Table) {config : Config}
    (hshared : table.delimiter = config.delimiter) (hspace : config.delimiter ≠ ' ')
    (width : Text → ℕ) (widths : Columns ℕ) {row : Columns Text} {cell : Text → Text}
    {picture : Text → List Glyph}
    (h : ∀ field ∈ row.toList, Shows config (cell field) field (picture field)) :
    lineGlyphs config (table.rowLine width widths (row.map cell))
      = Table.alignedLine (.scalar ' ' config.defaults) widths (row.map width)
        (row.map picture) := by
  obtain ⟨first, second, third⟩ := row
  obtain ⟨hfirst, hsecond, hthird⟩ : Shows config (cell first) first (picture first)
      ∧ Shows config (cell second) second (picture second)
      ∧ Shows config (cell third) third (picture third) := by
    simpa [Columns.toList] using h
  have hline := table.rowLine_eq width widths ⟨cell first, cell second, cell third⟩
  -- both separators are in the default colors, as that is where the cells before them end
  rw [Columns.map, hline,
    lineGlyphs_append_of_lastPaint (Table.separates_padding hspace _) hfirst.lastPaint_eq,
    lineGlyphs_append_of_lastPaint (Table.separates_padding hspace _) hsecond.lastPaint_eq]
  simp [Table.alignedLine, Columns.map, Paint.glyphs, Table.gutter, Table.cellWidth, hshared,
    hfirst.visible_eq, hfirst.lineGlyphs_eq, hsecond.visible_eq, hsecond.lineGlyphs_eq,
    hthird.lineGlyphs_eq]

/-! ## All lines -/

/-- What is to be seen of a table with the given rows, the first of which holds the headers: the
plain layout in the default colors, with the occurrences of the fragment below the headers in
color. -/
def tableGlyphs (highlighter : Highlighter) (config : Config) (fragment : Text)
    (rows : List (Columns Text)) : List Glyph :=
  let headers := rows.headD ⟨[], [], []⟩
  let entries := rows.tail
  let widths := Table.plainWidths Text.displayWidth (headers :: entries)
  let line (row : Columns Text) (cells : Columns (List Glyph)) :=
    Table.alignedLine (.scalar ' ' config.defaults) widths (row.map Text.displayWidth) cells
  List.intercalate [.lineBreak]
      (line headers (headers.map config.defaults.glyphs)
        :: config.defaults.glyphs (Table.plainRule widths)
        :: entries.map fun row => line row (row.map (highlighter.fieldGlyphs config fragment)))
    ++ if config.noNewline then [] else [.lineBreak]

section Lines

variable {highlighter : Highlighter} {config : Config} {rows : List (Columns Text)}
  (hname : highlighter.delimiter ∉ highlighter.color.name)
  (hrows : ∀ row ∈ rows, ∀ field ∈ row.toList, highlighter.delimiter ∉ field)

include hrows

/-- The headers, empty ones if there are no rows, hold no delimiter. -/
theorem not_mem_headers {field : Text} (h : field ∈ (rows.headD ⟨[], [], []⟩).toList) :
    highlighter.delimiter ∉ field := by
  cases rows with
  | nil =>
    obtain rfl : field = [] := by simpa [Columns.toList] using h
    exact List.not_mem_nil
  | cons headers entries => exact hrows headers List.mem_cons_self field h

include hname in
/-- Stripped of its markup, the table holds the fields. -/
theorem map_visible_ofRows (fragment : Text) :
    let table := Table.ofRows highlighter fragment rows
    (table.headers :: table.rows).map (Columns.map (visible table.delimiter))
      = rows.headD ⟨[], [], []⟩ :: rows.tail := by
  intro table
  have hheaders : (rows.headD ⟨[], [], []⟩).map (visible highlighter.delimiter)
      = rows.headD ⟨[], [], []⟩ := by
    apply Columns.map_eq_self
    intro field hfield
    exact visible_of_not_mem (not_mem_headers hrows hfield)
  have hentry : ∀ row ∈ rows.tail,
      (row.map (highlighter.highlight fragment)).map (visible highlighter.delimiter) = row := by
    intro row hrow
    apply Columns.map_eq_self (f := visible highlighter.delimiter ∘ highlighter.highlight fragment)
    intro field hfield
    exact Highlighter.visible_highlight hname fragment
      (hrows row (List.mem_of_mem_tail hrow) field hfield)
  have hentries : (rows.tail.map (Columns.map (highlighter.highlight fragment))).map
      (Columns.map (visible highlighter.delimiter)) = rows.tail := by
    rw [List.map_map]
    exact (List.map_congr_left hentry).trans (List.map_id _)
  simp only [table, Table.headers_ofRows, Table.rows_ofRows, Table.delimiter_ofRows, List.map_cons,
    hheaders, hentries]

variable (hshared : highlighter.delimiter = config.delimiter) (hspace : config.delimiter ≠ ' ')
  (fragment : Text) (widths : Columns ℕ)

include hshared hspace

/-- What is seen of the headers. -/
theorem lineGlyphs_headers :
    lineGlyphs config ((Table.ofRows highlighter fragment rows).rowLine Text.displayWidth widths
        (rows.headD ⟨[], [], []⟩))
      = Table.alignedLine (.scalar ' ' config.defaults) widths
        ((rows.headD ⟨[], [], []⟩).map Text.displayWidth)
        ((rows.headD ⟨[], [], []⟩).map config.defaults.glyphs) := by
  have hcells : ∀ field ∈ (rows.headD ⟨[], [], []⟩).toList,
      Shows config (id field) field (config.defaults.glyphs field) := by
    intro field hfield
    apply shows_of_not_mem
    rw [← hshared]
    exact not_mem_headers hrows hfield
  have hdelimiter : (Table.ofRows highlighter fragment rows).delimiter = config.delimiter := by
    rw [Table.delimiter_ofRows, hshared]
  have hline := lineGlyphs_rowLine _ hdelimiter hspace Text.displayWidth widths hcells
  rwa [Columns.map_id] at hline

include hname

/-- What is seen of a row below the headers. -/
theorem lineGlyphs_entry {row : Columns Text} (hrow : row ∈ rows.tail) :
    lineGlyphs config ((Table.ofRows highlighter fragment rows).rowLine Text.displayWidth widths
        (row.map (highlighter.highlight fragment)))
      = Table.alignedLine (.scalar ' ' config.defaults) widths (row.map Text.displayWidth)
        (row.map (highlighter.fieldGlyphs config fragment)) := by
  have hdelimiter : (Table.ofRows highlighter fragment rows).delimiter = config.delimiter := by
    rw [Table.delimiter_ofRows, hshared]
  apply lineGlyphs_rowLine _ hdelimiter hspace
  intro field hfield
  exact shows_highlight hshared hname fragment
    (hrows row (List.mem_of_mem_tail hrow) field hfield)

/-- What is seen of the lines of the table that some rows make. -/
theorem glyphs_lines (hdash : config.delimiter ≠ '-') :
    glyphs (renderLines config ((Table.ofRows highlighter fragment rows).lines
        Text.displayWidth)).events
      = tableGlyphs highlighter config fragment rows := by
  -- the widths were measured on the cells with their markup, and are those of the fields
  have hwidths := Table.widths_eq Text.displayWidth (Table.ofRows highlighter fragment rows)
  rw [map_visible_ofRows hname hrows fragment] at hwidths
  have hheaders := lineGlyphs_headers hrows hshared hspace fragment
  have hentry : ∀ widths, ∀ row ∈ rows.tail, _ := fun widths row hrow =>
    lineGlyphs_entry hname hrows hshared hspace fragment widths hrow
  have hrule : ∀ widths, config.delimiter ∉ Table.plainRule widths :=
    Table.not_mem_plainRule hspace hdash
  rw [glyphs_renderLines config (by simp [Table.lines]), Table.lines, hwidths, tableGlyphs,
    Table.headers_ofRows, Table.rows_ofRows, List.map_cons, List.map_cons, hheaders,
    Table.ruleLine_eq, lineGlyphs_of_not_mem (hrule _), List.map_map, List.map_map,
    Function.comp_def, Function.comp_def, List.map_congr_left (hentry _)]

end Lines

/-! ## The whole way -/

/-- A recorder to which a table is shown has recorded what is to be seen of the rows in the text:
the lines that are not blank, cut at their tabs.  The text has to be accepted, and the delimiter
must be none of the scalars that are in the text, in the name of the color or in the layout. -/
theorem glyphs_showTable (config : Config) {highlighter : Highlighter} {fragment input : Text}
    {table : Table} (hshared : highlighter.delimiter = config.delimiter)
    (hinput : highlighter.delimiter ∉ input)
    (hname : highlighter.delimiter ∉ highlighter.color.name)
    (hspace : highlighter.delimiter ≠ ' ') (hdash : highlighter.delimiter ≠ '-')
    (haccepted : Table.ofTsv highlighter fragment input = .ok table) :
    let report := showTable ({} : Recorder) config highlighter fragment input
    report.failure = none ∧
      ∃ rows : List (Columns Text),
        rows.map Columns.toList = (Tsv.rowLines input).map (List.splitOn '\t')
          ∧ glyphs report.console.toList = tableGlyphs highlighter config fragment rows := by
  intro report
  obtain ⟨hgood, htable⟩ := Table.ofTsv_eq_ok_iff.1 haccepted
  have hrows := Tsv.map_toList_rows_read hgood
  have hfields : ∀ row ∈ (Tsv.read input).rows, ∀ field ∈ row.toList,
      highlighter.delimiter ∉ field := by
    intro row hrow field hfield
    exact Tsv.not_mem_of_mem_rows hinput hrows hrow hfield
  obtain ⟨hkept, -, hfailure⟩ :=
    Recorder.play_eq {} (tableScript config highlighter fragment table)
  have hreport : report = ((play ({} : Recorder) (tableScript config highlighter fragment
      table)).mapFailure .console).after (Table.ofTsvRecords fragment input) := by
    simp only [report, showTable, haccepted]
  -- telling the log leaves no event
  have hevents : report.console.toList
      = (renderLines config (table.lines Text.displayWidth)).events := by
    rw [hreport]
    show (play ({} : Recorder) (tableScript config highlighter fragment table)).console.toList = _
    rw [hkept]
    simp [tableScript, events_map_record]
  refine ⟨?_, (Tsv.read input).rows, hrows, ?_⟩
  · rw [hreport]
    show Option.map _ _ = none
    rw [hfailure]
    rfl
  · rw [hshared] at hspace hdash
    rw [hevents, ← htable]
    exact glyphs_lines hname hfields hshared hspace fragment hdash

/-- Between two occurrences stands the name of a color, which is seen as it is. -/
theorem glyphs_showTable_of_color_name :
    let input : Text := "Name\tId\tPath\nx-red-y\t1\tp\n".toList
    let report := showTable ({} : Recorder) {} {} "-".toList input
    let plain := Paint.plain.glyphs
    let green := (Paint.mk (some .green) none).glyphs
    report.failure = none
      ∧ glyphs report.console.toList
        = plain "Name     Id  Path".toList ++ [.lineBreak]
          ++ plain "-------  --  ----".toList ++ [.lineBreak]
          ++ plain "x".toList ++ green "-".toList ++ plain "red".toList ++ green "-".toList
          ++ plain "y  1   p".toList ++ [.lineBreak] := by
  intro input report plain green
  have haccepted := Table.ofTsv_eq_ok_iff.2
    ⟨(by decide : (Tsv.read input).bad = none),
      (rfl : Table.ofRows {} "-".toList (Tsv.read input).rows = _)⟩
  obtain ⟨hfailure, rows, hrows, hglyphs⟩ :=
    glyphs_showTable {} rfl (by decide) (by decide) (by decide) (by decide) haccepted
  have hcut : (Tsv.rowLines input).map (List.splitOn '\t')
      = [⟨"Name".toList, "Id".toList, "Path".toList⟩,
          ⟨"x-red-y".toList, "1".toList, "p".toList⟩].map Columns.toList := by
    decide
  obtain rfl := List.map_injective_iff.2 Columns.toList_injective (hrows.trans hcut)
  exact ⟨hfailure, hglyphs.trans (by decide +kernel)⟩

end ColorMarkup

import ColorMarkup.Highlight
import ColorMarkup.Table

/-!
# Tab-separated text

A table is read from text with a row on every line and tabs between the cells.  Blank lines do not
count, except that they have line numbers; the first line that is not blank holds the headers.  This
file holds

* `Tsv.read`, the rows of such a text up to the first line that has not three cells;
* `Table.ofTsv`, the table in which a fragment is highlighted, and `Table.ofTsvRecords`, what there
  is to tell about reading it.
-/

namespace ColorMarkup

namespace Tsv

/-- A line that is not blank and has not three cells. -/
structure BadRow where
  /-- The number of the line, from 1 on. -/
  line : Nat
  /-- The number of its cells. -/
  fields : Nat
  deriving DecidableEq, Repr

/-- How a bad row is reported. -/
def BadRow.message (bad : BadRow) : Text :=
  "Line ".toList ++ .ofNat bad.line ++ ": expected 3 tab-separated fields, found ".toList
    ++ .ofNat bad.fields

/-- The rows of a text, up to the first bad one. -/
structure Contents where
  rows : List (Columns Text)
  bad : Option BadRow
  deriving DecidableEq, Repr

/-- The cells of a line if there are three of them; otherwise how many there are. -/
def cells (line : Text) : Except Nat (Columns Text) :=
  match line.splitOn '\t' with
  | [first, second, third] => .ok ⟨first, second, third⟩
  | fields => .error fields.length

/-- The rows on the given lines, the first of which has the number `number`. -/
def readLines (number : Nat) : List Text → Contents
  | [] => ⟨[], none⟩
  | line :: rest =>
    if line.isBlank then readLines (number + 1) rest
    else
      match cells line with
      | .error fields => ⟨[], some ⟨number, fields⟩⟩
      | .ok row =>
        let later := readLines (number + 1) rest
        ⟨row :: later.rows, later.bad⟩

/-- The lines of a text, without the carriage returns at their ends.  The empty line that this makes
of what follows the last line break is blank, so it does no harm. -/
def lines (input : Text) : List Text :=
  (input.splitOn '\n').map (Text.dropEndWhile (· == '\r'))

/-- The rows of a text. -/
def read (input : Text) : Contents :=
  readLines 1 (lines input)

end Tsv

namespace Table

/-- The table with the first row as headers, as they are, and the others highlighted. -/
def ofRows (highlighter : Highlighter) (fragment : Text) : List (Columns Text) → Table
  | [] => { delimiter := highlighter.delimiter }
  | headers :: entries =>
    { headers
      rows := entries.map (Columns.map (highlighter.highlight fragment))
      delimiter := highlighter.delimiter }

/-- The table that a text holds. -/
def ofTsv (highlighter : Highlighter) (fragment input : Text) : Except Tsv.BadRow Table :=
  let contents := Tsv.read input
  match contents.bad with
  | some bad => .error bad
  | none => .ok (ofRows highlighter fragment contents.rows)

/-- What there is to tell about reading a table.  Rows are highlighted as they are read, so those
before a bad one are heard of. -/
def ofTsvRecords (fragment input : Text) : List Log.Record :=
  let contents := Tsv.read input
  let entries := contents.rows.tail
  (entries.flatMap fun row => row.toList.flatMap (Highlight.records fragment))
    ++ (if contents.bad.isNone then [.parsed entries.length] else [])

end Table

end ColorMarkup

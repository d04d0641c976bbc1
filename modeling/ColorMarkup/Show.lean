import ColorMarkup.Render
import ColorMarkup.Table.Tsv
import ColorMarkup.Text.Width

/-!
# Showing

The two things that the program can show: markup lines as they are, and the table in a tab-separated
text with a fragment highlighted.  This file holds

* `Failure`, why nothing more is shown, with the text that reports it;
* `showLines` and `showTable`.
-/

namespace ColorMarkup

/-- Why a run fails. -/
inductive Failure where
  /-- The input is not UTF-8. -/
  | notUtf8
  /-- The console refuses an event. -/
  | console (fault : Fault)
  /-- A row of the input has not three cells. -/
  | badRow (bad : Tsv.BadRow)
  /-- There is a logger already. -/
  | loggerInstalled
  /-- What was shown cannot be passed on. -/
  | flush (fault : Fault)
  deriving DecidableEq, Repr

/-- How a failure is reported. -/
def Failure.message : Failure → Text
  | notUtf8 => "I/O error: stream did not contain valid UTF-8".toList
  | console fault => "Render error: ".toList ++ fault.renderMessage
  | badRow bad => bad.message
  | loggerInstalled =>
    ("Could not install logger: attempted to set a logger after the logging system was already "
      ++ "initialized").toList
  | flush fault => "I/O error: ".toList ++ fault.message

variable {σ : Type} [Console σ]

/-- Shows markup lines. -/
def showLines (console : σ) (config : Config) (lines : List Text) : Report σ Failure :=
  (play console (renderLines config lines)).mapFailure .console

/-- The script that shows a table in which `fragment` has been highlighted. -/
def tableScript (config : Config) (highlighter : Highlighter) (fragment : Text) (table : Table) :
    Script :=
  .record (.highlighting fragment table.rows.length highlighter.color)
    :: table.layoutRecords.map .record
    ++ renderLines config (table.lines Text.displayWidth)

/-- Shows the table in a tab-separated text, with `fragment` highlighted.  A text with a bad row
shows nothing at all. -/
def showTable (console : σ) (config : Config) (highlighter : Highlighter) (fragment input : Text) :
    Report σ Failure :=
  let told := Table.ofTsvRecords fragment input
  match Table.ofTsv highlighter fragment input with
  | .error bad => { console, records := told, failure := some (.badRow bad) }
  | .ok table =>
    ((play console (tableScript config highlighter fragment table)).mapFailure .console).after told

end ColorMarkup

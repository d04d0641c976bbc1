import ColorMarkup.Color
import ColorMarkup.Text.Quoted

/-!
# The log

What the program has to say about its own work goes to a log, never to its output.  This file holds
the levels of severity, the records, and which records a log of a given level keeps.
-/

namespace ColorMarkup.Log

/-! ## Levels -/

/-- How much a record matters, the most severe first. -/
inductive Level where
  | error | warn | info | debug | trace
  deriving DecidableEq, Repr

/-- The place of a level in the order of severity. -/
def Level.rank : Level → Nat
  | error => 0
  | warn => 1
  | info => 2
  | debug => 3
  | trace => 4

/-- The name of a level. -/
def Level.name : Level → Text
  | error => "ERROR".toList
  | warn => "WARN".toList
  | info => "INFO".toList
  | debug => "DEBUG".toList
  | trace => "TRACE".toList

/-- The level that a user asks for by saying "more" so many times. -/
def Level.ofVerbosity : Nat → Level
  | 0 => warn
  | 1 => info
  | 2 => debug
  | _ => trace

/-! ## Records -/

/-- Something worth telling about a run. -/
inductive Record where
  /-- A token looks like a directive and names no color, so it is shown as text. -/
  | unresolved (token : Text)
  /-- A markup line was written in full. -/
  | rendered (tokens bytes : Nat)
  /-- A table was read. -/
  | parsed (rows : Nat)
  /-- A table is about to be shown with the fragment highlighted. -/
  | highlighting (fragment : Text) (entries : Nat) (color : Color)
  deriving DecidableEq, Repr

/-- How much a record matters. -/
def Record.level : Record → Level
  | unresolved _ => .trace
  | rendered _ _ => .debug
  | parsed _ => .debug
  | highlighting _ _ _ => .info

/-- What a record says. -/
def Record.message : Record → Text
  | unresolved token =>
    "directive ".toList ++ token.quoted ++ " did not resolve, rendering as text".toList
  | rendered tokens bytes =>
    "rendered ".toList ++ .ofNat tokens ++ " tokens from ".toList ++ .ofNat bytes
      ++ " bytes of markup".toList
  | parsed rows => "parsed table with ".toList ++ .ofNat rows ++ " rows".toList
  | highlighting fragment entries color =>
    "highlighting ".toList ++ fragment.quoted ++ " in ".toList ++ .ofNat entries
      ++ " entries with ".toList ++ color.name

/-- The line that a record becomes in a log. -/
def Record.line (record : Record) : Text :=
  ['['] ++ record.level.name ++ "] ".toList ++ record.message

/-- The records that a log of the given level keeps: those as severe as the level or more. -/
def keep (level : Level) (records : List Record) : List Record :=
  records.filter fun record => record.level.rank ≤ level.rank

end ColorMarkup.Log

import ColorMarkup.Log
import ColorMarkup.Paint

/-!
# Consoles

All output is a sequence of events: a span of painted text, or a line break.  A console takes events
one at a time and may refuse one.  Work that produces output is written down as a script, a list of
actions that each write an event or tell something to the log; `play` carries a script out on a
console.  This file holds

* `Span`, `Event` and `Fault`, what is written and why a console may refuse it;
* the class `Console`;
* `Action` and `Script`, what is to be done, and `Report`, what has come of it;
* `play`, which carries out a script up to the first event that is refused.
-/

namespace ColorMarkup

/-! ## Events -/

/-- A run of text in one paint. -/
structure Span where
  text : Text
  paint : Paint
  deriving DecidableEq, Repr

/-- One call on a console. -/
inductive Event where
  | span (span : Span)
  | lineBreak
  deriving DecidableEq, Repr

/-- What is visible of an event, the colors left aside. -/
def Event.visible : Event → Text
  | .span piece => piece.text
  | .lineBreak => ['\n']

/-- Why a console refuses an event. -/
inductive Fault where
  /-- It takes no more calls. -/
  | refused
  /-- There is no room for all of the bytes. -/
  | diskFull
  /-- The bytes that are left are not taken, and no reason is given. -/
  | stalled
  /-- What was written cannot be passed on. -/
  | flushFailed
  deriving DecidableEq, Repr

/-- How a fault is reported. -/
def Fault.message : Fault → Text
  | refused => "console refused".toList
  | diskFull => "disk full".toList
  | stalled => "failed to write whole buffer".toList
  | flushFailed => "flush failed".toList

/-- How a fault is reported when it ends a rendering. -/
def Fault.renderMessage (fault : Fault) : Text :=
  "console write failed: ".toList ++ fault.message

/-- Something that takes events.  A console that refuses an event may still have changed: part of
the event can have reached its output. -/
class Console (σ : Type) where
  /-- The console after an event, and why it refused the event if it did. -/
  write : σ → Event → σ × Option Fault

/-! ## Scripts -/

/-- One thing to do. -/
inductive Action where
  /-- Tell the log. -/
  | record (record : Log.Record)
  /-- Write to the console. -/
  | write (event : Event)
  deriving DecidableEq, Repr

namespace Action

/-- The event that an action writes, if it writes one. -/
def event? : Action → Option Event
  | .record _ => none
  | .write event => some event

/-- The record that an action tells, if it tells one. -/
def record? : Action → Option Log.Record
  | .record told => some told
  | .write _ => none

end Action

/-- Things to do, in order. -/
abbrev Script := List Action

/-- The events that a script writes, in order. -/
def Script.events (script : Script) : List Event :=
  script.filterMap Action.event?

/-- The records that a script tells, in order. -/
def Script.records (script : Script) : List Log.Record :=
  script.filterMap Action.record?

namespace Script

@[simp] theorem events_nil : Script.events [] = [] := rfl

@[simp] theorem events_record (told : Log.Record) (rest : Script) :
    Script.events (.record told :: rest) = rest.events := rfl

@[simp] theorem events_write (event : Event) (rest : Script) :
    Script.events (.write event :: rest) = event :: rest.events := rfl

@[simp] theorem events_append (first second : Script) :
    Script.events (first ++ second) = first.events ++ second.events :=
  List.filterMap_append

@[simp] theorem records_nil : Script.records [] = [] := rfl

@[simp] theorem records_record (told : Log.Record) (rest : Script) :
    Script.records (.record told :: rest) = told :: rest.records := rfl

@[simp] theorem records_write (event : Event) (rest : Script) :
    Script.records (.write event :: rest) = rest.records := rfl

end Script

/-- What has come of something that was to be done on a console; `ε` says what can go wrong. -/
structure Report (σ ε : Type) where
  console : σ
  /-- What was told to the log, in order. -/
  records : List Log.Record
  /-- Why not everything was done, if so. -/
  failure : Option ε

namespace Report

variable {σ ε φ : Type}

/-- The same with some records told before. -/
def after (records : List Log.Record) (report : Report σ ε) : Report σ ε :=
  { report with records := records ++ report.records }

/-- The same with another account of what went wrong. -/
def mapFailure (f : ε → φ) (report : Report σ ε) : Report σ φ :=
  { console := report.console, records := report.records, failure := report.failure.map f }

end Report

/-- Carries out a script on a console, up to the first event that the console refuses. -/
def play {σ : Type} [Console σ] (console : σ) : Script → Report σ Fault
  | [] => { console, records := [], failure := none }
  | .record record :: rest => (play console rest).after [record]
  | .write event :: rest =>
    match Console.write console event with
    | (next, none) => play next rest
    | (next, some fault) => { console := next, records := [], failure := some fault }

end ColorMarkup

import ColorMarkup.Console

/-!
# Consoles that keep events

`Recorder` takes every event and keeps it; `Limited` passes a fixed number of events to a recorder
and refuses all later ones.  A recorder can be read as plain text or as a snapshot, one line for
each event.  `Recorder.play_eq` says that a recorder takes every script to its end.
-/

namespace ColorMarkup

/-- A console that keeps all events. -/
structure Recorder where
  events : Array Event := #[]
  deriving DecidableEq, Repr

namespace Recorder

instance : Console Recorder where
  write recorder event := (⟨recorder.events.push event⟩, none)

/-- The events, in order. -/
def toList (recorder : Recorder) : List Event :=
  recorder.events.toList

/-- The spans, in order, without the line breaks. -/
def spans (recorder : Recorder) : List Span :=
  recorder.toList.filterMap fun
    | .span piece => some piece
    | .lineBreak => none

/-- All that is visible, the colors left aside. -/
def text (recorder : Recorder) : Text :=
  recorder.toList.flatMap Event.visible

/-- Writing adds the event at the end, and never fails. -/
@[simp] theorem write_eq (recorder : Recorder) (event : Event) :
    Console.write recorder event = (⟨recorder.events.push event⟩, none) := rfl

@[simp] theorem toList_empty : toList {} = [] := rfl

/-- A recorder takes a script to its end: it keeps the events, and the log hears the records. -/
theorem play_eq (recorder : Recorder) (script : Script) :
    (play recorder script).console.toList = recorder.toList ++ script.events
      ∧ (play recorder script).records = script.records
      ∧ (play recorder script).failure = none := by
  induction script generalizing recorder with
  | nil => simp [play]
  | cons action rest ih =>
    cases action with
    | record record =>
      obtain ⟨hkept, hheard, hended⟩ := ih recorder
      exact ⟨by simpa [play, Report.after] using hkept, by simpa [play, Report.after] using hheard,
        by simpa [play, Report.after] using hended⟩
    | write event =>
      obtain ⟨hkept, hheard, hended⟩ := ih ⟨recorder.events.push event⟩
      exact ⟨by simpa [play, toList] using hkept, by simpa [play] using hheard,
        by simpa [play] using hended⟩

/-- A new recorder keeps the events of a script and no others. -/
theorem toList_play (script : Script) :
    (play ({} : Recorder) script).console.toList = script.events :=
  (play_eq {} script).1

end Recorder

/-! ## Snapshots -/

/-- How a snapshot shows one color of a paint. -/
def Paint.label : Option Color → Text
  | none => ['-']
  | some color => color.name

/-- The line of a snapshot for one event. -/
def Event.snapshot : Event → Text
  | .span ⟨text, paint⟩ =>
    text.quoted ++ " fg=".toList ++ Paint.label paint.foreground
      ++ " bg=".toList ++ Paint.label paint.background
  | .lineBreak => "<newline>".toList

/-- All events in writing, one line for each. -/
def snapshot (events : List Event) : Text :=
  Text.lines (events.map Event.snapshot)

/-! ## Limits -/

/-- A console that takes `remaining` more events and then none. -/
structure Limited where
  recorder : Recorder := {}
  remaining : Nat
  deriving DecidableEq, Repr

instance : Console Limited where
  write console event :=
    match console.remaining with
    | 0 => (console, some .refused)
    | remaining + 1 => (⟨(Console.write console.recorder event).1, remaining⟩, none)

end ColorMarkup

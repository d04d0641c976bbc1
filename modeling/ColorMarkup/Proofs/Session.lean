import Mathlib.Data.Nat.Notation
import ColorMarkup.Console.Recorder
import ColorMarkup.Console.Terminal
import ColorMarkup.Render

/-!
# Sessions on a terminal

A terminal is used step by step, and a step that fails does not end the session.  Whatever the
steps, and wherever the room in the sink ends, be it within an escape sequence: the sink holds the
first bytes of all that the steps would write on a console that takes everything, and the steps that
fail are those that had something to write for which there was no room.

* `Event.encoding` is what an event is on a terminal, byte for byte.
* `Sink.Holds` is the invariant of a sink, and `Sink.put_of_holds` keeps it for one piece of output.
* `Terminal.play_eq` is what a script does to a terminal, and `Terminal.play_of_limit_eq_none` what
  it does where there is room for everything.
* `Terminal.Step` is a step of a session: `Terminal.Step.run_of_ne_flush` makes one piece of output
  of it, `Terminal.Step.run_of_holds` keeps the invariant for it, and `Terminal.session_holds` for
  the whole session.
* `Terminal.session_refines` is the law for sessions on a terminal that is new.
-/

namespace ColorMarkup

/-! ## What an event is on a terminal -/

/-- The sequence that sets the color that the selector stands for; nothing if no color is set. -/
def colorSequence (selector : Text) : Option Color → List UInt8
  | none => []
  | some color =>
    Text.utf8 (['\x1b', '['] ++ selector ++ ";5;".toList ++ .ofNat color.number ++ ['m'])

/-- The bytes of an event: a span in colors is set and cleared again, a span in none is its text. -/
def Event.encoding : Event → List UInt8
  | .span ⟨text, ⟨foreground, background⟩⟩ =>
    colorSequence "38".toList foreground ++ colorSequence "48".toList background ++ text.utf8
      ++ if foreground.isSome ∨ background.isSome then Text.utf8 "\x1b[0m".toList else []
  | .lineBreak => [0x0a]

theorem Event.bytes_eq_encoding (event : Event) : event.bytes = event.encoding := by
  cases event with
  | lineBreak => rfl
  | span piece =>
    obtain ⟨text, ⟨foreground, background⟩⟩ := piece
    have hreset : Text.utf8 Escape.reset = Text.utf8 "\x1b[0m".toList := rfl
    cases foreground <;> cases background <;>
      simp [bytes, pieces, Span.pieces, encoding, colorSequence, Paint.isPlain, hreset,
        Escape.foreground, Escape.background, Escape.sequence]

/-! ## What a sink holds -/

/-- The first of some bytes, as many as there is room for. -/
def firstBytes (limit : Option ℕ) (sent : List UInt8) : List UInt8 :=
  match limit with
  | none => sent
  | some limit => sent.take limit

/-- There is a limit, and so many bytes are more than it allows. -/
def Exceeds (limit : Option ℕ) (count : ℕ) : Prop :=
  ∃ bound, limit = some bound ∧ bound < count

namespace Sink

/-- Of the bytes that were sent to the sink it holds the first ones. -/
def Holds (sink : Sink) (sent : List UInt8) : Prop :=
  sink.bytes.toList = firstBytes sink.limit sent

theorem holds_empty (limit : Option ℕ) (stalls : Bool) : Holds { limit, stalls } [] := by
  cases limit <;> simp [Holds, firstBytes]

@[simp] theorem limit_put (sink : Sink) (piece : List UInt8) :
    (sink.put piece).1.limit = sink.limit := by
  unfold put
  split <;> simp [*]

/-- A sink that holds the first of the bytes sent to it goes on to do so.  It is a fault if there is
something to take and no room for the last of it. -/
theorem put_of_holds {sink : Sink} {sent : List UInt8} (h : sink.Holds sent)
    (piece : List UInt8) :
    (sink.put piece).1.Holds (sent ++ piece)
      ∧ ((sink.put piece).2.isSome ↔ piece ≠ [] ∧ Exceeds sink.limit (sent ++ piece).length) := by
  unfold Holds at h
  cases hlimit : sink.limit with
  | none =>
    rw [hlimit, firstBytes] at h
    simp [put_of_limit_eq_none hlimit, Holds, firstBytes, hlimit, h, Exceeds]
  | some limit =>
    rw [hlimit, firstBytes] at h
    have hsize : sink.bytes.size = min limit sent.length := by
      rw [← Array.length_toList, h, List.length_take]
    -- what is missing at the limit is the same for the bytes held as for the bytes sent
    have hroom : limit - sink.bytes.size = limit - sent.length := by omega
    constructor
    · simp [put, hlimit, Holds, firstBytes, h, hroom, List.take_append]
    · have hfault : (sink.put piece).2.isSome ↔ limit - sent.length < piece.length := by
        simp only [put, hlimit, hroom]
        split <;> simp [*]
      have hlength : limit - sent.length < piece.length
          ↔ 0 < piece.length ∧ limit < sent.length + piece.length := by omega
      rw [hfault, hlength, List.length_pos_iff]
      simp [Exceeds]

end Sink

/-! ## Scripts on a terminal -/

namespace Terminal

theorem write_eq (terminal : Terminal) (event : Event) :
    Console.write terminal event
      = (⟨(terminal.sink.put event.encoding).1⟩, (terminal.sink.put event.encoding).2) := by
  have hflatten : (event.pieces.map Text.utf8).flatten = event.encoding := by
    rw [← Event.bytes_eq_encoding, Event.bytes, List.flatMap_def]
  show write terminal event = _
  rw [write, Sink.putAll_eq_put_flatten, hflatten]

/-- A script leaves a terminal as the bytes of its events would, put to the sink one event after the
other up to the first that does not fit. -/
theorem play_eq (terminal : Terminal) (script : Script) :
    (play terminal script).console
        = ⟨(terminal.sink.putAll (script.events.map Event.encoding)).1⟩
      ∧ (play terminal script).failure
        = (terminal.sink.putAll (script.events.map Event.encoding)).2 := by
  induction script generalizing terminal with
  | nil => exact ⟨rfl, rfl⟩
  | cons action rest ih =>
    cases action with
    | record told => exact ih terminal
    | write event =>
      rw [play, write_eq, Script.events_write, List.map_cons, Sink.putAll]
      obtain ⟨next, fault⟩ := terminal.sink.put event.encoding
      cases fault with
      | none => exact ih ⟨next⟩
      | some fault => exact ⟨rfl, rfl⟩

/-- Where there is room for everything, a script is carried out to its end. -/
theorem play_of_limit_eq_none {terminal : Terminal} (h : terminal.sink.limit = none)
    (script : Script) :
    (play terminal script).console.bytes
        = terminal.bytes ++ script.events.flatMap Event.encoding
      ∧ (play terminal script).failure = none := by
  obtain ⟨hconsole, hfailure⟩ := play_eq terminal script
  rw [hconsole, hfailure, Sink.putAll_eq_put_flatten, Sink.put_of_limit_eq_none h]
  simp [bytes, List.flatMap_def]

/-! ## Sessions -/

/-- One step of a session. -/
inductive Step where
  /-- A call with an event. -/
  | write (event : Event)
  /-- A rendering of a markup line. -/
  | render (config : Config) (markup : Text)
  /-- The terminal is to pass on what was written. -/
  | flush
  deriving DecidableEq, Repr

namespace Step

/-- Takes the step: the terminal after it, and why it failed if it did. -/
def run (step : Step) (terminal : Terminal) : Terminal × Option Fault :=
  match step with
  | write event => Console.write terminal event
  | render config markup =>
    let report := play terminal (ColorMarkup.render config markup)
    (report.console, report.failure)
  | flush => terminal.flush

/-- The calls that the step makes on a console that never fails. -/
def calls : Step → List Event
  | write event => (Console.write ({} : Recorder) event).1.toList
  | render config markup => (play ({} : Recorder) (ColorMarkup.render config markup)).console.toList
  | flush => []

/-- The bytes of these calls. -/
def encoding (step : Step) : List UInt8 :=
  step.calls.flatMap Event.encoding

/-- A step that writes sends its bytes to the sink. -/
theorem run_of_ne_flush {step : Step} (h : step ≠ flush) (terminal : Terminal) :
    step.run terminal
      = (⟨(terminal.sink.put step.encoding).1⟩, (terminal.sink.put step.encoding).2) := by
  cases step with
  | write event =>
    have hcalls : (write event).calls = [event] := rfl
    have hencoding : (write event).encoding = event.encoding := by simp [encoding, hcalls]
    rw [hencoding]
    exact write_eq terminal event
  | render config markup =>
    obtain ⟨hconsole, hfailure⟩ := play_eq terminal (ColorMarkup.render config markup)
    have hcalls : (render config markup).calls = (ColorMarkup.render config markup).events :=
      Recorder.toList_play (ColorMarkup.render config markup)
    rw [run, hconsole, hfailure, encoding, hcalls, Sink.putAll_eq_put_flatten, List.flatMap_def]
  | flush => exact absurd rfl h

/-- After a step, as before it, the sink holds the first of the bytes sent to it. -/
theorem run_of_holds (step : Step) {terminal : Terminal} {sent : List UInt8}
    (h : terminal.sink.Holds sent) :
    (step.run terminal).1.sink.Holds (sent ++ step.encoding)
      ∧ (step.run terminal).1.sink.limit = terminal.sink.limit
      ∧ (step ≠ flush → ((step.run terminal).2.isSome
        ↔ step.encoding ≠ [] ∧ Exceeds terminal.sink.limit (sent ++ step.encoding).length)) := by
  by_cases hflush : step = flush
  · subst hflush
    refine ⟨?_, rfl, fun hne => absurd rfl hne⟩
    have hnothing : flush.encoding = [] := rfl
    rw [hnothing, List.append_nil]
    exact h
  · rw [run_of_ne_flush hflush]
    obtain ⟨hholds, hfault⟩ := Sink.put_of_holds h step.encoding
    exact ⟨hholds, Sink.limit_put _ _, fun _ => hfault⟩

end Step

/-- What comes of the steps of a session: the terminal after each step, and why that step failed if
it did.  The next step is taken all the same. -/
def session (terminal : Terminal) : List Step → List (Terminal × Option Fault)
  | [] => []
  | step :: rest => step.run terminal :: session (step.run terminal).1 rest

theorem length_session (terminal : Terminal) (steps : List Step) :
    (terminal.session steps).length = steps.length := by
  induction steps generalizing terminal with
  | nil => rfl
  | cons step rest ih => simp [session, ih]

/-- From a terminal that holds the first of the bytes sent to it, each step of a session leads to
one that does. -/
theorem session_holds {terminal : Terminal} {sent : List UInt8} (h : terminal.sink.Holds sent)
    {steps : List Step} {i : ℕ} {step : Step} {outcome : Terminal × Option Fault}
    (hstep : steps[i]? = some step) (houtcome : (terminal.session steps)[i]? = some outcome) :
    let total := sent ++ (steps.take (i + 1)).flatMap Step.encoding
    outcome.1.sink.Holds total
      ∧ outcome.1.sink.limit = terminal.sink.limit
      ∧ (step ≠ .flush → (outcome.2.isSome
        ↔ step.encoding ≠ [] ∧ Exceeds terminal.sink.limit total.length)) := by
  induction steps generalizing terminal sent i with
  | nil => simp at hstep
  | cons first rest ih =>
    have hfirst := first.run_of_holds h
    have ⟨hholds, hlimit, _⟩ := hfirst
    cases i with
    | zero =>
      obtain rfl : first = step := by simpa using hstep
      obtain rfl : first.run terminal = outcome := by simpa [session] using houtcome
      simpa using hfirst
    | succ i =>
      have hlater := ih hholds (by simpa using hstep) (by simpa [session] using houtcome)
      rw [hlimit] at hlater
      simpa using hlater

/-- Of all that the steps of a session would write on a console that never fails, the sink holds
after every step the first bytes, as many as there is room for.  A step other than a flush fails if
it has something to write and the room ends before the last of it, and only then.  A flush writes
nothing. -/
theorem session_refines (limit : Option ℕ) (stalls : Bool) (steps : List Step) :
    let outcomes := session ⟨{ limit, stalls }⟩ steps
    outcomes.length = steps.length
      ∧ (∀ i step terminal fault, steps[i]? = some step → outcomes[i]? = some (terminal, fault) →
        let total := (steps.take (i + 1)).flatMap Step.encoding
        terminal.bytes = firstBytes limit total
          ∧ (step ≠ .flush → (fault.isSome ↔ step.encoding ≠ [] ∧ Exceeds limit total.length)))
      ∧ ∀ terminal : Terminal, terminal.flush.1.bytes = terminal.bytes := by
  intro outcomes
  refine ⟨length_session _ _, ?_, fun _ => rfl⟩
  intro i step terminal fault hstep houtcome total
  obtain ⟨hholds, hlimit, hfault⟩ :=
    session_holds (Sink.holds_empty limit stalls) hstep houtcome
  refine ⟨?_, hfault⟩
  unfold Sink.Holds at hholds
  rw [hlimit] at hholds
  exact hholds

/-- The room ends within an escape sequence.  The empty text after it has nothing to write, and the
flush writes nothing. -/
example :
    let span (text : String) (color? : Option Color) : Step :=
      .write (.span ⟨text.toList, ⟨color?, none⟩⟩)
    (session ⟨{ limit := some 5 }⟩
        [span "ab" none, span "c" (some .red), span "" none, .flush, .write .lineBreak]).map
        (fun outcome => (outcome.1.bytes, outcome.2))
      = [(Text.utf8 "ab".toList, none), (Text.utf8 "ab\x1b[3".toList, some .diskFull),
          (Text.utf8 "ab\x1b[3".toList, none), (Text.utf8 "ab\x1b[3".toList, some .flushFailed),
          (Text.utf8 "ab\x1b[3".toList, some .diskFull)] := by
  decide +kernel

end Terminal

end ColorMarkup

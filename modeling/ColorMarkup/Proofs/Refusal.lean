import Mathlib.Data.Nat.Notation
import ColorMarkup.Console.Recorder
import ColorMarkup.Show

/-!
# Consoles that refuse

A console may come to refuse what it is given.  All that is shown is shown by scripts, and a script
ends with the first event that is refused: the console has taken exactly the events before it, and
is not asked again.  Input that cannot be shown is found out before the first event.

* `Watched` keeps the calls on a console, and `TakesOnly` says how many of them it takes.
* `FailStop` is the law for some work on a console, and `failStop_play` the law for a script.
* `failStop_show` is the law for lines, for a single line and for tables.
-/

namespace ColorMarkup

variable {σ ε φ : Type}

/-! ## Watching a console -/

/-- A console, and the calls on it so far, each with the answer. -/
structure Watched (σ : Type) where
  console : σ
  calls : List (Event × Option Fault) := []

instance [Console σ] : Console (Watched σ) where
  write watched event :=
    let (next, answer) := Console.write watched.console event
    (⟨next, watched.calls ++ [(event, answer)]⟩, answer)

theorem Watched.write_eq [Console σ] (console : σ) (calls : List (Event × Option Fault))
    (event : Event) :
    Console.write (⟨console, calls⟩ : Watched σ) event
      = (⟨(Console.write console event).1,
          calls ++ [(event, (Console.write console event).2)]⟩,
        (Console.write console event).2) := rfl

/-- The console takes the next `count` events, whatever they are, and refuses the one after them. -/
def TakesOnly [Console σ] : ℕ → σ → Prop
  | 0, console => ∀ event, (Console.write console event).2 ≠ none
  | count + 1, console => ∀ event,
    (Console.write console event).2 = none ∧ TakesOnly count (Console.write console event).1

namespace TakesOnly

variable [Console σ] {console : σ}

theorem exists_fault (h : TakesOnly 0 console) (event : Event) :
    ∃ next fault, Console.write console event = (next, some fault) := by
  obtain ⟨fault, hfault⟩ := Option.ne_none_iff_exists'.1 (h event)
  exact ⟨_, fault, Prod.ext rfl hfault⟩

theorem exists_next {count : ℕ} (h : TakesOnly (count + 1) console) (event : Event) :
    ∃ next, Console.write console event = (next, none) ∧ TakesOnly count next := by
  obtain ⟨htaken, hnext⟩ := h event
  exact ⟨_, Prod.ext rfl htaken, hnext⟩

end TakesOnly

/-- A limit is the number of events that are taken. -/
theorem Limited.takesOnly (recorder : Recorder) (remaining : ℕ) :
    TakesOnly remaining (⟨recorder, remaining⟩ : Limited) := by
  induction remaining generalizing recorder with
  | zero => exact fun event => Option.some_ne_none _
  | succ remaining ih => exact fun event => ⟨rfl, ih _⟩

/-! ## The law -/

/-- The events of some work, where none is refused. -/
def eventsOf (work : {σ : Type} → [Console σ] → σ → Report σ ε) : List Event :=
  (work ({} : Recorder)).console.toList

/-- The events of some calls, each with whether the console took it. -/
def answered (calls : List (Event × Option Fault)) : List (Event × Bool) :=
  calls.map fun call => (call.1, call.2.isNone)

/-- The first `count` events, taken, and the one after them, refused. -/
def takenAndRefused (count : ℕ) (events : List Event) : List (Event × Bool) :=
  (events.take count).map (fun event => (event, true))
    ++ ((events.drop count).take 1).map (fun event => (event, false))

/-- Work stops at the first event that is refused. -/
structure FailStop (work : {σ : Type} → [Console σ] → σ → Report σ ε) : Prop where
  /-- Behind a limit, as many of the events are recorded as it lets through. -/
  recorded : ∀ count : ℕ, (work ({ remaining := count } : Limited)).console.recorder.toList
    = (eventsOf work).take count
  /-- The work is done if there are no more events than the console takes, and only then. -/
  failure_eq_none_iff : ∀ {σ : Type} [Console σ] {console : σ} {count : ℕ},
    TakesOnly count console →
      ((work console).failure = none ↔ (eventsOf work).length ≤ count)
  /-- The console is given the events that it takes, then the one that it refuses, and no more. -/
  given : ∀ {σ : Type} [Console σ] {console : σ} {count : ℕ}, TakesOnly count console →
    answered (work ({ console } : Watched σ)).console.calls
      = takenAndRefused count (eventsOf work)

namespace FailStop

variable {work : {σ : Type} → [Console σ] → σ → Report σ ε}

/-- How a failure is put does not matter. -/
theorem mapFailure (h : FailStop work) (f : ε → φ) :
    FailStop fun console => (work console).mapFailure f where
  recorded := h.recorded
  failure_eq_none_iff takes := by
    rw [Report.mapFailure, Option.map_eq_none_iff]
    exact h.failure_eq_none_iff takes
  given := h.given

/-- What was told to the log before does not matter. -/
theorem after (h : FailStop work) (records : List Log.Record) :
    FailStop fun console => (work console).after records where
  recorded := h.recorded
  failure_eq_none_iff := h.failure_eq_none_iff
  given := h.given

end FailStop

/-! ## Scripts -/

theorem Limited.toList_play (recorder : Recorder) (remaining : ℕ) (script : Script) :
    (play (⟨recorder, remaining⟩ : Limited) script).console.recorder.toList
      = recorder.toList ++ script.events.take remaining := by
  induction script generalizing recorder remaining with
  | nil => simp [play]
  | cons action rest ih =>
    cases action with
    | record told => exact ih recorder remaining
    | write event =>
      cases remaining with
      | zero => simp [play, Console.write]
      | succ remaining =>
        have hrest := ih ⟨recorder.events.push event⟩ remaining
        simpa [play, Console.write, Recorder.toList] using hrest

theorem failure_play_eq_none_iff [Console σ] {console : σ} {count : ℕ}
    (h : TakesOnly count console) (script : Script) :
    (play console script).failure = none ↔ script.events.length ≤ count := by
  induction script generalizing console count with
  | nil => simp [play]
  | cons action rest ih =>
    cases action with
    | record told => exact ih h
    | write event =>
      cases count with
      | zero =>
        obtain ⟨next, fault, hwrite⟩ := h.exists_fault event
        simp [play, hwrite]
      | succ count =>
        obtain ⟨next, hwrite, hnext⟩ := h.exists_next event
        simp [play, hwrite, ih hnext]

/-- A watched console is given the events of a script up to the one that it refuses. -/
theorem answered_play [Console σ] {console : σ} {count : ℕ} (h : TakesOnly count console)
    (before : List (Event × Option Fault)) (script : Script) :
    answered (play (⟨console, before⟩ : Watched σ) script).console.calls
      = answered before ++ takenAndRefused count script.events := by
  induction script generalizing console count before with
  | nil => simp [play, takenAndRefused]
  | cons action rest ih =>
    cases action with
    | record told => exact ih h before
    | write event =>
      cases count with
      | zero =>
        obtain ⟨next, fault, hwrite⟩ := h.exists_fault event
        simp [play, Watched.write_eq, hwrite, takenAndRefused, answered]
      | succ count =>
        obtain ⟨next, hwrite, hnext⟩ := h.exists_next event
        have hrest := ih hnext (before ++ [(event, none)])
        simpa [play, Watched.write_eq, hwrite, takenAndRefused, answered] using hrest

theorem eventsOf_play (script : Script) :
    eventsOf (fun console => play console script) = script.events :=
  Recorder.toList_play script

/-- A script ends with the first event that is refused. -/
theorem failStop_play (script : Script) : FailStop fun console => play console script where
  recorded count := by
    rw [eventsOf_play]
    exact Limited.toList_play {} count script
  failure_eq_none_iff takes := by
    rw [eventsOf_play]
    exact failure_play_eq_none_iff takes script
  given takes := by
    rw [eventsOf_play]
    exact answered_play takes [] script

/-! ## What is shown -/

/-- Lines, a single line, and the table in a text that is accepted stop at the first event that a
console refuses.  A text that is not accepted is reported before any console is given an event. -/
theorem failStop_show (config : Config) (lines : List Text) (markup : Text)
    (highlighter : Highlighter) (fragment input : Text) :
    FailStop (fun console => showLines console config lines)
      ∧ FailStop (fun console => play console (render config markup))
      ∧ (∀ table, Table.ofTsv highlighter fragment input = .ok table →
        FailStop fun console => showTable console config highlighter fragment input)
      ∧ ∀ bad, Table.ofTsv highlighter fragment input = .error bad →
        ∀ {σ : Type} [Console σ] (console : σ),
          let report := showTable ({ console } : Watched σ) config highlighter fragment input
          report.failure = some (.badRow bad) ∧ report.console.calls = [] := by
  refine ⟨?_, failStop_play (render config markup), ?_, ?_⟩
  · exact (failStop_play (renderLines config lines)).mapFailure Failure.console
  · intro table haccepted
    have hscript := failStop_play (tableScript config highlighter fragment table)
    simp only [showTable, haccepted]
    exact (hscript.mapFailure Failure.console).after (Table.ofTsvRecords fragment input)
  · intro bad hrejected σ _ console report
    simp [report, showTable, hrejected]

/-- A table is cut between the last span of a row and its line break; another one has a bad row
after two good ones. -/
theorem failStop_show_of_cut_row :
    let good : Text := "N\tI\tP\nab\t1\tp\n".toList
    let bad : Text := "N\tI\tP\nab\t1\tp\nc\n".toList
    let cut := showTable ({ remaining := 7 } : Limited) {} {} "b".toList good
    let rejected := showTable ({ console := {} } : Watched Recorder) {} {} "b".toList bad
    cut.failure ≠ none
      ∧ cut.console.recorder.toList
        = [.span ⟨"N   I  P".toList, .plain⟩, .lineBreak, .span ⟨"--  -  -".toList, .plain⟩,
            .lineBreak, .span ⟨"a".toList, .plain⟩, .span ⟨"b".toList, ⟨some .green, none⟩⟩,
            .span ⟨"  1  p".toList, .plain⟩]
      ∧ rejected.failure = some (.badRow ⟨3, 1⟩)
      ∧ rejected.console.calls = [] := by
  intro good bad cut rejected
  have haccepted : Table.ofTsv {} "b".toList good
      = .ok (Table.ofRows {} "b".toList (Tsv.read good).rows) := rfl
  have hrejected : Table.ofTsv {} "b".toList bad = .error ⟨3, 1⟩ := rfl
  have hcut := (failStop_show {} [] [] {} "b".toList good).2.2.1 _ haccepted
  have hnone := (failStop_show {} [] [] {} "b".toList bad).2.2.2 _ hrejected ({} : Recorder)
  refine ⟨?_, ?_, hnone.1, hnone.2⟩
  · rw [ne_eq, hcut.failure_eq_none_iff (Limited.takesOnly {} 7)]
    decide +kernel
  · exact (hcut.recorded 7).trans (by decide +kernel)

end ColorMarkup

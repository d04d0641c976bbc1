import ColorMarkup.Program
import ColorMarkup.Proofs.Acceptance
import ColorMarkup.Proofs.Session

/-!
# What the program leaves behind

A command line that can be read is carried out to the end, or there is something wrong with the
table on standard input.  In the first case all that was to be shown is on standard output, and
nothing on standard error; in the second case it is the other way round.

* `Report.Encodes` is what comes of work that is done on a terminal with room for everything;
  `encodes_play` says that every script makes it so, and `encodes_showLines` and
  `encodes_showTable` that lines and tables do.
* `Program.Accepts` and `Program.Rejects` are the two cases for standard input, with the text that
  reports the second one; `Program.perform_of_not_accepts` finds the report.
* `Program.outcome_of_encodes` and `Program.outcome_of_failure` say what is left behind.
* `Program.execute_of_parse` puts these together.
-/

namespace ColorMarkup

/-! ## Terminals that take everything -/

/-- All is done, and the terminal, which has room for everything, holds the encoding of some
events. -/
structure Report.Encodes (report : Report Terminal Failure) (events : List Event) : Prop where
  failure_eq_none : report.failure = none
  limit_eq_none : report.console.sink.limit = none
  bytes_eq : report.console.bytes = events.flatMap Event.encoding

namespace Report.Encodes

/-- What was told to the log before does not matter. -/
theorem after {report : Report Terminal Failure} {events : List Event} (h : report.Encodes events)
    (records : List Log.Record) : (report.after records).Encodes events where
  failure_eq_none := h.failure_eq_none
  limit_eq_none := h.limit_eq_none
  bytes_eq := h.bytes_eq

end Report.Encodes

theorem Terminal.limit_play (terminal : Terminal) (script : Script) :
    (play terminal script).console.sink.limit = terminal.sink.limit := by
  rw [(play_eq terminal script).1, Sink.putAll_eq_put_flatten]
  exact Sink.limit_put _ _

/-- A script leaves the encoding of its events. -/
theorem encodes_play (script : Script) :
    ((play ({} : Terminal) script).mapFailure Failure.console).Encodes script.events where
  failure_eq_none := by
    have hlimit : ({} : Terminal).sink.limit = none := rfl
    show Option.map _ _ = none
    rw [(Terminal.play_of_limit_eq_none hlimit script).2]
    rfl
  limit_eq_none := Terminal.limit_play {} script
  bytes_eq := by
    have hlimit : ({} : Terminal).sink.limit = none := rfl
    exact (Terminal.play_of_limit_eq_none hlimit script).1

/-- Lines that are shown on a terminal leave what a recorder keeps of them. -/
theorem encodes_showLines (config : Config) (lines : List Text) :
    (showLines ({} : Terminal) config lines).Encodes
      (showLines ({} : Recorder) config lines).console.toList := by
  have hkept : (showLines ({} : Recorder) config lines).console.toList
      = (renderLines config lines).events := Recorder.toList_play _
  rw [hkept]
  exact encodes_play (renderLines config lines)

/-- So does the table in a text that is accepted. -/
theorem encodes_showTable (config : Config) {highlighter : Highlighter} {fragment input : Text}
    {table : Table} (h : Table.ofTsv highlighter fragment input = .ok table) :
    (showTable ({} : Terminal) config highlighter fragment input).Encodes
      (showTable ({} : Recorder) config highlighter fragment input).console.toList := by
  have hkept : (showTable ({} : Recorder) config highlighter fragment input).console.toList
      = (tableScript config highlighter fragment table).events := by
    simp only [showTable, h]
    exact Recorder.toList_play _
  rw [hkept]
  simp only [showTable, h]
  exact (encodes_play _).after _

namespace Program

open CommandLine (Invocation)

/-! ## Standard input -/

/-- Standard input holds a table: it is the UTF-8 form of the text, and every line of the text that
is not all white space has three fields. -/
structure Accepts (stdin : List UInt8) (input : Text) : Prop where
  eq_utf8 : stdin = input.utf8
  not_offends : ∀ line ∈ input.splitOn '\n', ¬Tsv.Offends line

/-- Standard input holds no other text than the one whose UTF-8 form it is. -/
theorem accepts_utf8_iff {input other : Text} :
    Accepts input.utf8 other ↔ other = input ∧ ∀ line ∈ input.splitOn '\n', ¬Tsv.Offends line := by
  constructor
  · intro h
    have hsame : some input = some other := by
      rw [← Text.ofUtf8?_utf8 input, Text.ofUtf8?_eq_some_iff.2 h.eq_utf8]
    obtain rfl := Option.some.inj hsame
    exact ⟨rfl, h.not_offends⟩
  · rintro ⟨rfl, hlines⟩
    exact ⟨rfl, hlines⟩

/-- Standard input holds no table, and the text says why. -/
inductive Rejects (stdin : List UInt8) : Text → Prop where
  /-- It is no UTF-8. -/
  | notUtf8 (h : ∀ input : Text, stdin ≠ input.utf8) :
    Rejects stdin "I/O error: stream did not contain valid UTF-8".toList
  /-- A line has not three fields, and it is the first such line. -/
  | badRow {input : Text} {before after : List Text} {line : Text} (hutf8 : stdin = input.utf8)
    (hlines : input.splitOn '\n' = before ++ line :: after)
    (hbefore : ∀ other ∈ before, ¬Tsv.Offends other) (hline : Tsv.Offends line) :
    Rejects stdin ("Line ".toList ++ .ofNat (1 + before.length)
      ++ ": expected 3 tab-separated fields, found ".toList ++ .ofNat (Tsv.fieldCount line))

/-- The report is a single line. -/
theorem Rejects.newline_not_mem {stdin : List UInt8} {text : Text} (h : Rejects stdin text) :
    '\n' ∉ text := by
  have hnumber (n : ℕ) : '\n' ∉ Text.ofNat n := by
    intro hmem
    have hdigit : '\n'.isDigit = true := Nat.isDigit_of_mem_toDigits (by decide) (by decide) hmem
    exact absurd hdigit (by decide)
  cases h with
  | notUtf8 h => decide
  | badRow hutf8 hlines hbefore hline =>
    simp only [List.mem_append, not_or, hnumber, not_false_eq_true, and_true]
    decide

section Table

variable {invocation : Invocation} {fragment : Text} {color : Color}
  (hcommand : invocation.command = .table fragment color)

include hcommand

/-- A table is shown. -/
theorem perform_of_accepts {stdin : List UInt8} {input : Text} (h : Accepts stdin input) :
    (perform invocation stdin).Encodes
      (showTable ({} : Recorder) invocation.config ⟨color, invocation.config.delimiter⟩ fragment
        input).console.toList := by
  have hread : Text.ofUtf8? stdin = some input := Text.ofUtf8?_eq_some_iff.2 h.eq_utf8
  have hgood : (Tsv.read input).bad = none := Tsv.bad_read_eq_none_iff.2 h.not_offends
  simp only [perform, hcommand, hread]
  exact encodes_showTable _ (Table.ofTsv_eq_ok_iff.2 ⟨hgood, rfl⟩)

/-- If there is none, this is found out before anything is shown. -/
theorem perform_of_not_accepts {stdin : List UInt8} (h : ∀ input, ¬Accepts stdin input) :
    ∃ failure, (perform invocation stdin).failure = some failure
      ∧ (perform invocation stdin).console.bytes = []
      ∧ Rejects stdin failure.message := by
  cases hread : Text.ofUtf8? stdin with
  | none =>
    refine ⟨.notUtf8, ?_, ?_, .notUtf8 ?_⟩
    · simp [perform, hcommand, hread]
    · simp [perform, hcommand, hread, Terminal.bytes]
    · intro input hutf8
      rw [Text.ofUtf8?_eq_some_iff.2 hutf8] at hread
      exact absurd hread (by simp)
  | some input =>
    have hutf8 : stdin = input.utf8 := Text.ofUtf8?_eq_some_iff.1 hread
    cases hbad : (Tsv.read input).bad with
    | none => exact absurd ⟨hutf8, Tsv.bad_read_eq_none_iff.1 hbad⟩ (h input)
    | some bad =>
      obtain ⟨before, line, after, hlines, hbefore, hline, rfl⟩ := Tsv.bad_read_eq_some_iff.1 hbad
      have hrejected : Table.ofTsv ⟨color, invocation.config.delimiter⟩ fragment input
          = .error ⟨1 + before.length, Tsv.fieldCount line⟩ := Table.ofTsv_eq_error_iff.2 hbad
      refine ⟨.badRow ⟨1 + before.length, Tsv.fieldCount line⟩, ?_, ?_,
        .badRow hutf8 hlines hbefore hline⟩
      · simp [perform, hcommand, hread, showTable, hrejected]
      · simp [perform, hcommand, hread, showTable, hrejected, Terminal.bytes]

end Table

/-! ## Outcomes -/

/-- Work that is done leaves the encoding of its events on standard output. -/
theorem outcome_of_encodes (logger? : Option Logger) {report : Report Terminal Failure}
    {events : List Event} (h : report.Encodes events) :
    let left := outcome logger? (passOn report)
    left.exitCode = 0 ∧ left.stderr = [] ∧ left.stdout = events.flatMap Event.encoding := by
  intro left
  -- nothing can go wrong when the bytes are passed on, and they stay the same
  have hflush : report.console.flush.2 = none := by
    simp [Terminal.flush, Sink.flush, h.limit_eq_none]
  have hfailure : (passOn report).failure = none := by
    simp [passOn, h.failure_eq_none, hflush]
  have hbytes : (passOn report).console.bytes = events.flatMap Event.encoding := by
    rw [← h.bytes_eq]
    simp only [passOn, h.failure_eq_none]
    rfl
  refine ⟨?_, ?_, hbytes⟩
  · simp [left, outcome, hfailure]
  · simp [left, outcome, hfailure, Text.utf8]

/-- Work that went wrong leaves a complaint on standard error. -/
theorem outcome_of_failure (logger? : Option Logger) {report : Report Terminal Failure}
    {failure : Failure} (h : report.failure = some failure) :
    let left := outcome logger? (passOn report)
    left.exitCode = 1 ∧ left.stdout = report.console.bytes
      ∧ left.stderr = Text.utf8 ("regfind: ".toList ++ failure.message ++ ['\n']) := by
  have hpassed : passOn report = report := by simp only [passOn, h]
  have hname : name ++ ": ".toList = "regfind: ".toList := rfl
  rw [hpassed, ← hname]
  refine ⟨?_, rfl, ?_⟩
  · simp [outcome, h]
  · simp only [outcome, h]

section Table

variable {invocation : Invocation} {fragment : Text} {color : Color}
  (hcommand : invocation.command = .table fragment color)

include hcommand

theorem run_of_accepts {stdin : List UInt8} {input : Text} (h : Accepts stdin input) :
    let left := run invocation stdin
    left.exitCode = 0 ∧ left.stderr = []
      ∧ left.stdout = (showTable ({} : Recorder) invocation.config
        ⟨color, invocation.config.delimiter⟩ fragment input).console.toList.flatMap
          Event.encoding :=
  outcome_of_encodes _ (perform_of_accepts hcommand h)

theorem run_of_not_accepts {stdin : List UInt8} (h : ∀ input, ¬Accepts stdin input) :
    let left := run invocation stdin
    left.exitCode = 1 ∧ left.stdout = []
      ∧ ∃ text, Rejects stdin text ∧ '\n' ∉ text
        ∧ left.stderr = Text.utf8 ("regfind: ".toList ++ text ++ ['\n']) := by
  obtain ⟨failure, hfailure, hconsole, hrejects⟩ := perform_of_not_accepts hcommand h
  obtain ⟨hcode, hstdout, hstderr⟩ := outcome_of_failure (logger? invocation) hfailure
  exact ⟨hcode, hstdout.trans hconsole, failure.message, hrejects, hrejects.newline_not_mem,
    hstderr⟩

end Table

/-- A logger can be set up where there is none. -/
theorem execute_eq_run {installed : Option Logger} {arguments : List Text}
    {invocation : Invocation} (hparse : CommandLine.parse arguments = .ok invocation)
    (hlogger : invocation.log = none ∨ installed = none) (stdin : List UInt8) :
    execute installed arguments stdin = run invocation stdin := by
  have hinstall : ∃ installed', (logger? invocation).mapM (Logger.install installed)
      = .ok installed' := by
    rcases hlogger with hlog | rfl
    · exact ⟨none, by simp [logger?, hlog]; rfl⟩
    · cases hlog : logger? invocation with
      | none => exact ⟨none, rfl⟩
      | some logger => exact ⟨some logger, rfl⟩
  obtain ⟨installed', hinstall⟩ := hinstall
  simp only [execute, hparse, hinstall]

/-- What is left behind by a command line that can be read and whose logger, if it asks for one, can
be set up. -/
theorem execute_of_parse {installed : Option Logger} {arguments : List Text}
    {invocation : Invocation} (hparse : CommandLine.parse arguments = .ok invocation)
    (hlogger : invocation.log = none ∨ installed = none) (stdin : List UInt8) :
    let left := execute installed arguments stdin
    (match invocation.command with
      | .render lines =>
        left.exitCode = 0 ∧ left.stderr = []
          ∧ left.stdout = (showLines ({} : Recorder) invocation.config lines).console.toList.flatMap
            Event.encoding
      | .table fragment color =>
        (left.exitCode = 0 ↔ ∃ input, Accepts stdin input)
          ∧ (∀ input, Accepts stdin input →
            left.exitCode = 0 ∧ left.stderr = []
              ∧ left.stdout = (showTable ({} : Recorder) invocation.config
                ⟨color, invocation.config.delimiter⟩ fragment input).console.toList.flatMap
                  Event.encoding)
          ∧ ((∀ input, ¬Accepts stdin input) →
            left.exitCode = 1 ∧ left.stdout = []
              ∧ ∃ text, Rejects stdin text ∧ '\n' ∉ text
                ∧ left.stderr = Text.utf8 ("regfind: ".toList ++ text ++ ['\n'])))
      ∧ ∀ otherInstalled otherArguments otherInvocation,
        CommandLine.parse otherArguments = .ok otherInvocation →
        otherInvocation.config = invocation.config →
        otherInvocation.command = invocation.command →
        (otherInvocation.log = none ∨ otherInstalled = none) →
          let other := execute otherInstalled otherArguments stdin
          other.stdout = left.stdout ∧ other.exitCode = left.exitCode := by
  intro left
  have hleft : left = run invocation stdin := execute_eq_run hparse hlogger stdin
  refine ⟨?_, ?_⟩
  · rw [hleft]
    cases hcommand : invocation.command with
    | render lines =>
      have hperform : perform invocation stdin = showLines {} invocation.config lines := by
        simp only [perform, hcommand]
      rw [run, hperform]
      exact outcome_of_encodes _ (encodes_showLines invocation.config lines)
    | table fragment color =>
      refine ⟨?_, fun input => run_of_accepts hcommand, run_of_not_accepts hcommand⟩
      constructor
      · intro hcode
        by_contra hnone
        obtain ⟨hone, -, -⟩ := run_of_not_accepts hcommand (not_exists.1 hnone)
        exact absurd (hcode.symm.trans hone) (by decide)
      · rintro ⟨input, haccepts⟩
        exact (run_of_accepts hcommand haccepts).1
  · intro otherInstalled otherArguments otherInvocation hotherParse hconfig hcommand hotherLogger
    -- neither the log nor how detailed it is has a part in what is performed
    have hperform : perform otherInvocation stdin = perform invocation stdin := by
      unfold perform
      rw [hconfig, hcommand]
    rw [hleft, execute_eq_run hotherParse hotherLogger, run, hperform]
    exact ⟨rfl, rfl⟩

/-- The line of tabs and blanks does not count as a row, but it has a number. -/
theorem execute_of_parse_of_blank_line :
    let arguments : List Text :=
      ["-vv".toList, "--log=regfind.log".toList, "table".toList, "b".toList]
    let quiet : List Text := ["table".toList, "b".toList]
    let good : Text := "N\tI\tP\nab\t1\tp\n".toList
    let bad : Text := "N\tI\tP\n \t\nc\n".toList
    (execute none arguments good.utf8).stdout
        = Text.utf8 "N   I  P\n--  -  -\na\x1b[38;5;10mb\x1b[0m  1  p\n".toList
      ∧ (execute none arguments bad.utf8).exitCode = 1
      ∧ (execute none quiet bad.utf8).stdout = []
      ∧ Rejects bad.utf8 "Line 3: expected 3 tab-separated fields, found 1".toList := by
  intro arguments quiet good bad
  have hparse : CommandLine.parse arguments
      = .ok
        { verbosity := 2, log := some "regfind.log".toList, command := .table ['b'] .green } := by
    decide +kernel
  have hquiet : CommandLine.parse quiet = .ok { command := .table ['b'] .green } := by
    decide +kernel
  have haccepts : Accepts good.utf8 good := accepts_utf8_iff.2 ⟨rfl, by decide⟩
  have hnone : ∀ input, ¬Accepts bad.utf8 input := by
    intro input haccepts
    exact absurd (accepts_utf8_iff.1 haccepts).2 (by decide)
  obtain ⟨⟨-, hgood, -⟩, -⟩ := execute_of_parse hparse (.inr rfl) good.utf8
  obtain ⟨⟨-, -, hbad⟩, hsame⟩ := execute_of_parse hparse (.inr rfl) bad.utf8
  obtain ⟨hcode, hstdout, -⟩ := hbad hnone
  obtain ⟨hquietStdout, -⟩ := hsame none quiet _ hquiet rfl rfl (.inr rfl)
  refine ⟨?_, hcode, hquietStdout.trans hstdout, ?_⟩
  · exact (hgood good haccepts).2.2.trans (by decide +kernel)
  · have htext : "Line 3: expected 3 tab-separated fields, found 1".toList
        = "Line ".toList ++ Text.ofNat 3 ++ ": expected 3 tab-separated fields, found ".toList
          ++ Text.ofNat (Tsv.fieldCount ['c']) := by
      decide +kernel
    have hlines : bad.splitOn '\n' = ["N\tI\tP".toList, " \t".toList] ++ ['c'] :: [[]] := by decide
    rw [htext]
    exact .badRow rfl hlines (by decide) (by decide)

end Program

end ColorMarkup

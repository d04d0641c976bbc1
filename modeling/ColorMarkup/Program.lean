import ColorMarkup.CommandLine.Parse
import ColorMarkup.Console.Terminal
import ColorMarkup.Show

/-!
# The program

What the program does, from its arguments and its standard input to what it leaves behind: output,
complaints, a log and an exit code.  This file holds

* `Logger` and `Logger.install`, which allows one logger;
* `Outcome`, what a run leaves behind;
* `run`, which carries out an invocation, and `usage`, what comes of a command line that asks for
  nothing that can be carried out;
* `execute`, the whole program.

The help and the text of a usage error are no part of an outcome: the program that is run from a
shell prints its own.
-/

namespace ColorMarkup

/-! ## Logging -/

/-- A log kept in a file. -/
structure Logger where
  path : Text
  level : Log.Level
  deriving DecidableEq, Repr

/-- Sets up a logger where none, or another, is `installed`.  Only the first one ever can be. -/
def Logger.install (installed : Option Logger) (logger : Logger) : Except Failure Logger :=
  match installed with
  | none => .ok logger
  | some _ => .error .loggerInstalled

namespace Program

/-- The name that complaints begin with. -/
def name : Text := "regfind".toList

/-- The version of the program. -/
def version : Text := "0.1.0".toList

/-- What a run leaves behind.  Of a run that ends in help or in a usage error, what it prints about
its use is left out. -/
structure Outcome where
  exitCode : Nat
  stdout : List UInt8 := []
  stderr : List UInt8 := []
  /-- The file of the log and the records in it, unless no log was asked for. -/
  log : Option (Text × List Log.Record) := none
  deriving DecidableEq, Repr

/-! ## Carrying out an invocation -/

/-- The invocation's logger, if it asks for one. -/
def logger? (invocation : CommandLine.Invocation) : Option Logger :=
  invocation.log.map fun path => ⟨path, .ofVerbosity invocation.verbosity⟩

/-- Shows what the command asks for on a terminal. -/
def perform (invocation : CommandLine.Invocation) (stdin : List UInt8) : Report Terminal Failure :=
  match invocation.command with
  | .render lines => showLines {} invocation.config lines
  | .table fragment color =>
    match Text.ofUtf8? stdin with
    | none => { console := {}, records := [], failure := some .notUtf8 }
    | some input =>
      showTable {} invocation.config ⟨color, invocation.config.delimiter⟩ fragment input

/-- What a report leaves behind. -/
def outcome (logger? : Option Logger) (report : Report Terminal Failure) : Outcome :=
  let complaint : Text :=
    match report.failure with
    | none => []
    | some failure => name ++ ": ".toList ++ failure.message ++ ['\n']
  { exitCode := if report.failure.isNone then 0 else 1
    stdout := report.console.bytes
    stderr := complaint.utf8
    log := logger?.map fun logger => (logger.path, Log.keep logger.level report.records) }

/-- Passes on what has been shown, unless something has gone wrong. -/
def passOn (report : Report Terminal Failure) : Report Terminal Failure :=
  match report.failure with
  | some _ => report
  | none =>
    let (console, fault?) := report.console.flush
    { report with console, failure := fault?.map .flush }

/-- Carries out an invocation. -/
def run (invocation : CommandLine.Invocation) (stdin : List UInt8) : Outcome :=
  outcome (logger? invocation) (passOn (perform invocation stdin))

/-! ## Command lines that ask for nothing -/

/-- What comes of a command line that is not carried out.  Asking for help or for the version is no
mistake.  The outcome holds the exit code and, if it was asked for, the version; the help and the
text of a usage error are left to `main`, which prints `help` for both. -/
def usage (error : CommandLine.UsageError) : Outcome :=
  match error with
  | .helpRequested => { exitCode := 0 }
  | .versionRequested =>
    { exitCode := 0, stdout := Text.utf8 (name ++ [' '] ++ version ++ ['\n']) }
  | _ => { exitCode := 2 }

/-! ## The whole program -/

/-- Does what the arguments ask for, `installed` being the logger that there is already.  A logger
that the arguments ask for is set up before anything else is done. -/
def execute (installed : Option Logger) (arguments : List Text) (stdin : List UInt8) : Outcome :=
  match CommandLine.parse arguments with
  | .error error => usage error
  | .ok invocation =>
    match (logger? invocation).mapM (Logger.install installed) with
    | .error failure => outcome none { console := {}, records := [], failure := some failure }
    | .ok _ => run invocation stdin

end Program

end ColorMarkup

import ColorMarkup.Program

/-!
# The command line program

Reads the arguments and, for a table, standard input; leaves behind what `Program.execute` says.
What it prints about its use, on standard output when help was asked for and on standard error after
a usage error, is its own and no part of that.
-/

namespace ColorMarkup.Program

/-- What the program tells about its use. -/
def help : String :=
  "usage: regfind [OPTIONS] render MARKUP...\n" ++
  "       regfind [OPTIONS] table [--highlight-color COLOR] FRAGMENT\n" ++
  "options: --fg COLOR, --bg COLOR, --no-newline, --delimiter CHAR, --log FILE, -v,\n" ++
  "         -h, --help, -V, --version"

/-- Adds the kept records to the log file.  The first of them creates it; a file that cannot be
opened is left alone. -/
def appendLog (log : Option (Text × List Log.Record)) : IO Unit := do
  match log with
  | none | some (_, []) => return
  | some (path, records) =>
    try
      let file ← IO.FS.Handle.mk (String.ofList path) .append
      for record in records do
        file.putStrLn (String.ofList record.line)
    catch _ => return

/-- Writes the output, the complaints and the log of a run. -/
def leave (outcome : Outcome) : IO UInt32 := do
  appendLog outcome.log
  let stdout ← IO.getStdout
  stdout.write (ByteArray.mk outcome.stdout.toArray)
  stdout.flush
  (← IO.getStderr).write (ByteArray.mk outcome.stderr.toArray)
  return UInt32.ofNat outcome.exitCode

end ColorMarkup.Program

open ColorMarkup in
def main (arguments : List String) : IO UInt32 := do
  let arguments := arguments.map String.toList
  let mut stdin := ByteArray.empty
  match CommandLine.parse arguments with
  | .ok invocation =>
    if let .table _ _ := invocation.command then
      stdin ← (← IO.getStdin).readBinToEnd
  | .error .helpRequested => IO.println Program.help
  | .error .versionRequested => pure ()
  | .error _ => IO.eprintln Program.help
  Program.leave (Program.execute none arguments stdin.data.toList)

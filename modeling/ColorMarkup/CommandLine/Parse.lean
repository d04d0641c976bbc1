import ColorMarkup.CommandLine.Option
import ColorMarkup.Render

/-!
# Reading the command line

A command line has two levels: the arguments before the name of a command and those after it.  Most
options may stand on either level; what the inner level says wins.  A level is read argument by
argument.  A setting whose value is a separate argument is kept pending until the next option or
word, and only then is its value looked at, so that a mistake in a value is found after a mistake in
the form of what follows it.  This file holds

* `Given`, the options that have been given, with `Given.set` and `Given.within`;
* `Level`, how far the reading of a level has come, and `Level.take`, one more argument;
* `Invocation`, what a command line asks for, and `parse`.
-/

namespace ColorMarkup.CommandLine

/-! ## Options given -/

/-- The options that have been given on one level. -/
structure Given where
  foreground : Option Color := none
  background : Option Color := none
  delimiter : Option Char := none
  log : Option Text := none
  highlightColor : Option Color := none
  noNewline : Bool := false
  /-- How often more detail in the log was asked for. -/
  verbosity : Nat := 0
  deriving DecidableEq, Repr

/-- The highest count of a repeated switch. -/
def maxVerbosity : Nat := 255

/-- Reads the value of a setting that stands for a color. -/
def colorValue (value : Text) : Except UsageError Color :=
  match Color.parse value with
  | .ok color => .ok color
  | .error _ => .error .badValue

/-- Reads the value of a setting that stands for a character. -/
def charValue : Text → Except UsageError Char
  | [c] => .ok c
  | _ => .error .badValue

/-- Reads the value of a setting that stands for a file. -/
def pathValue : Text → Except UsageError Text
  | [] => .error .missingValue
  | path => .ok path

/-- Gives an option its value, unless it has one. -/
def fill {α : Type} (old : Option α) (new : Except UsageError α) : Except UsageError (Option α) :=
  if old.isSome then .error .repeated else some <$> new

namespace Given

/-- The options after a setting was given a value. -/
def set (given : Given) (setting : Setting) (value : Text) : Except UsageError Given :=
  match setting with
  | .foreground => do return { given with foreground := ← fill given.foreground (colorValue value) }
  | .background => do return { given with background := ← fill given.background (colorValue value) }
  | .delimiter => do return { given with delimiter := ← fill given.delimiter (charValue value) }
  | .log => do return { given with log := ← fill given.log (pathValue value) }
  | .highlightColor => do
    return { given with highlightColor := ← fill given.highlightColor (colorValue value) }

/-- The options after a switch was given. -/
def turnOn (given : Given) : Switch → Except UsageError Given
  | .noNewline =>
    if given.noNewline then .error .repeated else .ok { given with noNewline := true }
  | .verbose => .ok { given with verbosity := min maxVerbosity (given.verbosity + 1) }
  | .help => .error .helpRequested
  | .version => .error .versionRequested

/-- The options of two levels together: where both say something, the inner level wins. -/
def within (inner outer : Given) : Given :=
  { foreground := inner.foreground <|> outer.foreground
    background := inner.background <|> outer.background
    delimiter := inner.delimiter <|> outer.delimiter
    log := inner.log <|> outer.log
    highlightColor := inner.highlightColor <|> outer.highlightColor
    noNewline := inner.noNewline || outer.noNewline
    verbosity := if inner.verbosity = 0 then outer.verbosity else inner.verbosity }

/-- The options of a rendering. -/
def config (given : Given) : Config :=
  { defaults := ⟨given.foreground, given.background⟩
    noNewline := given.noNewline
    delimiter := given.delimiter.getD '#' }

end Given

/-! ## Names of commands -/

/-- The names that may follow the options of the program. -/
inductive CommandName where
  | render | table | help
  deriving DecidableEq, Repr

/-- The command that a word names, spelled out in full. -/
def CommandName.of? (text : Text) : Option CommandName :=
  if text = "render".toList then some .render
  else if text = "table".toList then some .table
  else if text = "help".toList then some .help
  else none

/-! ## Levels -/

/-- How far the reading of one level has come. -/
structure Level where
  given : Given := {}
  /-- The setting whose value has not been looked at, and the value if it has come. -/
  pending : Option (Setting × Option Text) := none
  /-- Whether all further arguments are words. -/
  wordsOnly : Bool := false
  words : List Text := []
  deriving DecidableEq, Repr

namespace Level

/-- Whether the next argument is the value of a setting, if it looks like a word. -/
def awaitsValue (level : Level) : Bool :=
  match level.pending with
  | some (_, none) => true
  | _ => false

/-- Looks at the value of the pending setting. -/
def settle (level : Level) : Except UsageError Level :=
  match level.pending with
  | none => .ok level
  | some (_, none) => .error .missingValue
  | some (setting, some value) => do
    return { level with given := ← level.given.set setting value, pending := none }

/-- Takes a switch. -/
def takeSwitch (level : Level) (switch : Switch) : Except UsageError Level := do
  let level ← level.settle
  return { level with given := ← level.given.turnOn switch }

/-- Takes a setting, with its value if that belongs to the same argument. -/
def takeSetting (level : Level) (setting : Setting) (value? : Option Text) :
    Except UsageError Level := do
  let level ← level.settle
  match value? with
  | some value => return { level with given := ← level.given.set setting value }
  | none => return { level with pending := some (setting, none) }

/-- Takes a long option. -/
def takeLong (level : Level) (scope : Scope) (name : Text) (value? : Option Text) :
    Except UsageError Level :=
  match scope.setting? name, scope.switch? name, value? with
  | some setting, _, value? => level.takeSetting setting value?
  | none, some switch, none => level.takeSwitch switch
  | none, some _, some _ => .error .needlessValue
  | none, none, _ => .error .unknownArgument

/-- Takes a bundle of one-letter options. -/
def takeLetters (level : Level) (scope : Scope) : Text → Except UsageError Level
  | [] => .ok level
  | letter :: rest =>
    match scope.letterSwitch? letter with
    | some switch => do (← level.takeSwitch switch).takeLetters scope rest
    | none => .error .unknownArgument

/-- Takes a word that is no value.  Before a command there are no words but its name, and that is
out of place where only words are left; a table takes one word only. -/
def takeWord (level : Level) (scope : Scope) (text : Text) : Except UsageError Level :=
  match scope with
  | .program =>
    .error (if (CommandName.of? text).isSome then .unknownArgument else .unknownCommand)
  | .render => do
    let level ← level.settle
    return { level with words := level.words ++ [text] }
  | .table =>
    if level.words.isEmpty then do
      let level ← level.settle
      return { level with words := [text] }
    else .error .unknownArgument

/-- Takes one argument. -/
def take (scope : Scope) (level : Level) (text : Text) : Except UsageError Level :=
  if level.wordsOnly then level.takeWord scope text
  else
    match Argument.of text with
    | .separator => .ok { level with wordsOnly := true }
    | .long name value? => level.takeLong scope name value?
    | .letters letters => level.takeLetters scope letters
    | .word text =>
      match level.pending with
      | some (setting, none) => .ok { level with pending := some (setting, some text) }
      | _ => level.takeWord scope text

/-- Takes all the arguments of a level. -/
def takeAll (scope : Scope) (arguments : List Text) : Except UsageError Level := do
  (← arguments.foldlM (take scope) {}).settle

end Level

/-! ## Command lines -/

/-- What the program is to do. -/
inductive Command where
  /-- Show markup lines. -/
  | render (lines : List Text)
  /-- Show the table on standard input with a fragment highlighted. -/
  | table (fragment : Text) (color : Color)
  deriving DecidableEq, Repr

/-- What a command line asks for. -/
structure Invocation where
  config : Config := {}
  /-- How often more detail in the log was asked for. -/
  verbosity : Nat := 0
  /-- The file to keep a log in. -/
  log : Option Text := none
  command : Command
  deriving DecidableEq, Repr

/-- What comes of asking for help: the words after it must name one command at most. -/
def helpOutcome : List Text → UsageError
  | [] => .helpRequested
  | [name] => if (CommandName.of? name).isSome then .helpRequested else .unknownCommand
  | _ => .unknownCommand

/-- What a command line asks for that gives the options `given` and then the command. -/
def Given.invocation (given : Given) (command : Command) : Invocation :=
  { config := given.config, verbosity := given.verbosity, log := given.log, command }

/-- Reads the arguments after `render`. -/
def parseRender (arguments : List Text) : Except UsageError (Given × Command) := do
  let level ← Level.takeAll .render arguments
  match level.words with
  | [] => throw .missingWord
  | lines => return (level.given, .render lines)

/-- Reads the arguments after `table`. -/
def parseTable (arguments : List Text) : Except UsageError (Given × Command) := do
  let level ← Level.takeAll .table arguments
  match level.words with
  | [] => throw .missingWord
  | fragment :: _ =>
    return (level.given, .table fragment (level.given.highlightColor.getD .green))

/-- Reads the arguments after the name of a command. -/
def parseCommand (name : CommandName) (arguments : List Text) :
    Except UsageError (Given × Command) :=
  match name with
  | .render => parseRender arguments
  | .table => parseTable arguments
  | .help => .error (helpOutcome arguments)

/-- The command that an argument of the outer level names, if it stands where a command may. -/
def Level.command? (level : Level) (text : Text) : Option CommandName :=
  if level.wordsOnly || level.awaitsValue then none else CommandName.of? text

/-- Reads the rest of a command line, of which `level` has been read. -/
def parseFrom (level : Level) : List Text → Except UsageError Invocation
  | [] => do
    let level ← level.settle
    throw (if level.given = {} then .nothingGiven else .missingCommand)
  | text :: rest =>
    match level.command? text with
    | some name => do
      let (inner, command) ← parseCommand name rest
      let level ← level.settle
      return (inner.within level.given).invocation command
    | none => do parseFrom (← level.take .program text) rest

/-- Reads a command line, given as the arguments after the name of the program. -/
def parse (arguments : List Text) : Except UsageError Invocation :=
  parseFrom {} arguments

end ColorMarkup.CommandLine

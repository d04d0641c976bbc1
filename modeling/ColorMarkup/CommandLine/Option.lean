import ColorMarkup.Text

/-!
# The options of the command line

Which options there are, where they may stand, and what a single argument looks like.  An option
either takes a value or works by being there.  This file holds

* `Scope`, the places on a command line; `Setting` and `Switch`, the two kinds of options;
* `UsageError`, what can be wrong with a command line;
* `Argument.of`, which tells options from words by their look.
-/

namespace ColorMarkup.CommandLine

/-- Where on a command line an argument stands. -/
inductive Scope where
  /-- Before the name of a command. -/
  | program
  /-- After `render`. -/
  | render
  /-- After `table`. -/
  | table
  deriving DecidableEq, Repr

/-- An option that takes a value. -/
inductive Setting where
  | foreground | background | delimiter | log | highlightColor
  deriving DecidableEq, Repr

/-- An option that takes no value. -/
inductive Switch where
  | noNewline | verbose | help | version
  deriving DecidableEq, Repr

/-- The name of a setting, without the two dashes. -/
def Setting.name : Setting → Text
  | foreground => "fg".toList
  | background => "bg".toList
  | delimiter => "delimiter".toList
  | log => "log".toList
  | highlightColor => "highlight-color".toList

/-- All settings. -/
def Setting.all : List Setting :=
  [foreground, background, delimiter, log, highlightColor]

/-- Whether a setting may stand in the scope: all may stand everywhere, but only a table has a
highlight color. -/
def Setting.allowedIn : Setting → Scope → Bool
  | highlightColor, scope => scope = .table
  | _, _ => true

/-- The name of a switch, without the two dashes, if it has a long form. -/
def Switch.longName? : Switch → Option Text
  | noNewline => some "no-newline".toList
  | verbose => none
  | help => some "help".toList
  | version => some "version".toList

/-- The letter of a switch, if it has a short form. -/
def Switch.letter? : Switch → Option Char
  | noNewline => none
  | verbose => some 'v'
  | help => some 'h'
  | version => some 'V'

/-- All switches. -/
def Switch.all : List Switch :=
  [noNewline, verbose, help, version]

/-- Whether a switch may stand in the scope: only the program has a version. -/
def Switch.allowedIn : Switch → Scope → Bool
  | version, scope => scope = .program
  | _, _ => true

namespace Scope

/-- The setting that a long name stands for. -/
def setting? (scope : Scope) (name : Text) : Option Setting :=
  Setting.all.find? fun setting => setting.allowedIn scope && setting.name == name

/-- The switch that a long name stands for. -/
def switch? (scope : Scope) (name : Text) : Option Switch :=
  Switch.all.find? fun switch => switch.allowedIn scope && switch.longName? == some name

/-- The switch that a letter stands for. -/
def letterSwitch? (scope : Scope) (letter : Char) : Option Switch :=
  Switch.all.find? fun switch => switch.allowedIn scope && switch.letter? == some letter

end Scope

/-! ## Mistakes -/

/-- Why a command line is not carried out. -/
inductive UsageError where
  /-- Help was asked for. -/
  | helpRequested
  /-- The version was asked for. -/
  | versionRequested
  /-- There is nothing on the command line. -/
  | nothingGiven
  /-- There are options but no command. -/
  | missingCommand
  /-- A word that should name a command does not. -/
  | unknownCommand
  /-- An option is not known where it stands, there is one word too many, or the name of a command
  comes after the two dashes that make it a mere word. -/
  | unknownArgument
  /-- A command lacks a word that it needs. -/
  | missingWord
  /-- A setting has no value. -/
  | missingValue
  /-- The value of a setting cannot be understood. -/
  | badValue
  /-- A switch was given a value. -/
  | needlessValue
  /-- An option that may be given once was given twice in one place. -/
  | repeated
  deriving DecidableEq, Repr

/-! ## Single arguments -/

/-- What an argument looks like. -/
inductive Argument where
  /-- Two dashes alone: all further arguments are words. -/
  | separator
  /-- A long option, with the value after an equals sign if there is one. -/
  | long (name : Text) (value? : Option Text)
  /-- A bundle of one-letter options. -/
  | letters (letters : Text)
  | word (text : Text)
  deriving DecidableEq, Repr

/-- The look of an argument.  A single dash is a word. -/
def Argument.of : Text → Argument
  | ['-', '-'] => .separator
  | '-' :: '-' :: rest =>
    match rest.dropWhile (· != '=') with
    | [] => .long rest none
    | _ :: value => .long (rest.takeWhile (· != '=')) (some value)
  | '-' :: letter :: rest => .letters (letter :: rest)
  | text => .word text

end ColorMarkup.CommandLine

import Weave.Text.Basic

/-!
# Weave.CommandLine.Param — what can be said on the command line

The parameters of the command with their names, and what can be wrong with a command line.
-/

namespace Weave.CommandLine

/-! ## Parameters -/

inductive Param where
  | path
  | verbose
  | noColor
  | help
  | version
  /-- The source, which has no name and is known by its place. -/
  | input
  | output
  | noCache
  | dryRun
  | check
  | watch
deriving Repr, DecidableEq, Inhabited

namespace Param

/-- The name of a parameter after two dashes. -/
def long? : Param → Option Text
  | .path => some "path".toList
  | .verbose => some "verbose".toList
  | .noColor => some "no-color".toList
  | .help => some "help".toList
  | .version => some "version".toList
  | .input => none
  | .output => some "output".toList
  | .noCache => some "no-cache".toList
  | .dryRun => some "dry-run".toList
  | .check => some "check".toList
  | .watch => some "watch".toList

/-- The name of a parameter after one dash. -/
def short? : Param → Option Char
  | .path => some 'p'
  | .verbose => some 'v'
  | .help => some 'h'
  | .version => some 'V'
  | .output => some 'o'
  | _ => none

/-- What the value of a parameter is called. A parameter without a value is a switch. -/
def value? : Param → Option Text
  | .path => some "PATH".toList
  | .input => some "INPUT".toList
  | .output => some "OUTPUT".toList
  | _ => none

def takesValue (param : Param) : Bool :=
  param.value?.isSome

/-- How messages show a parameter. -/
def shown (param : Param) : Text :=
  match param.long?, param.value? with
  | some name, some value => "--".toList ++ name ++ " <".toList ++ value ++ ['>']
  | some name, none => "--".toList ++ name
  | none, value => '[' :: value.getD [] ++ [']']

/-- The parameters that can be given before the name of a command. -/
def general : List Param :=
  [.path, .verbose, .noColor, .help, .version]

def ofRun : List Param :=
  [.output, .noCache, .dryRun, .check, .watch, .path, .verbose, .noColor, .help]

end Param

/-! ## Errors -/

/-- What is wrong with a command line. -/
inductive UsageError where
  | unknownCommand (name : Text)
  | unknownArgument (argument : Text)
  /-- Two parameters that exclude each other, in the order in which they were given. -/
  | conflict (first second : Param)
  | repeated (param : Param)
  | missingValue (param : Param)
  /-- A switch was given a value. -/
  | unexpectedValue (value : Text) (param : Param)
deriving Repr, DecidableEq, Inhabited

namespace UsageError

def quoted (s : Text) : Text :=
  '\x27' :: s ++ ['\x27']

def message : UsageError → Text
  | .unknownCommand name => "unrecognized subcommand ".toList ++ quoted name
  | .unknownArgument argument =>
    "unexpected argument ".toList ++ quoted argument ++ " found".toList
  | .conflict first second =>
    "the argument ".toList ++ quoted first.shown ++ " cannot be used with ".toList
      ++ quoted second.shown
  | .repeated param =>
    "the argument ".toList ++ quoted param.shown ++ " cannot be used multiple times".toList
  | .missingValue param =>
    "a value is required for ".toList ++ quoted param.shown ++ " but none was supplied".toList
  | .unexpectedValue value param =>
    "unexpected value ".toList ++ quoted value ++ " for ".toList ++ quoted param.shown
      ++ " found; no more were expected".toList

end UsageError

/-- What a command line without errors can still lack. -/
inductive Omission where
  | command
  | input
deriving Repr, DecidableEq, Inhabited

def Omission.message : Omission → Text
  | .command => "no subcommand specified".toList
  | .input => "missing input file".toList

end Weave.CommandLine

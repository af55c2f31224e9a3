import Weave.CommandLine.Param

/-!
# Weave.CommandLine.Arguments — reading a command line

A command line names a command, with general parameters before it and parameters of its own after
it. They are read from left to right: an option whose value is the next argument stays pending until
something else is read, and is taken in only then. So the first thing that is wrong is reported, as
far as it was known when reading stopped.
-/

namespace Weave.CommandLine

/-! ## What was said -/

/-- Why reading ends before a job is known. -/
inductive Stop where
  | help
  | version
  | error (cause : UsageError)
deriving Repr, DecidableEq, Inhabited

structure Reading where
  /-- The parameters in the order in which they were given. The value of a switch is empty. -/
  given : List (Param × Text)
  /-- A parameter that is not taken in yet, with its value once that was read. -/
  pending : Option (Param × Option Text)
  /-- Whether two dashes alone were read, after which no argument names a parameter. -/
  namesEnded : Bool
deriving Repr, DecidableEq, Inhabited

namespace Reading

def start : Reading :=
  ⟨[], none, false⟩

def value? (reading : Reading) (param : Param) : Option Text :=
  (reading.given.find? (·.1 = param)).map (·.2)

def has (reading : Reading) (param : Param) : Bool :=
  (reading.value? param).isSome

def waiting? (reading : Reading) : Option Param :=
  match reading.pending with
  | some (param, none) => some param
  | _ => none

/-- Takes in a parameter. No parameter is given twice and no value is empty. -/
def takeIn (reading : Reading) (param : Param) (value : Text) : Except Stop Reading :=
  if reading.has param then .error (.error (.repeated param))
  else if param.takesValue && value.isEmpty then .error (.error (.missingValue param))
  else .ok { reading with given := reading.given ++ [(param, value)] }

/-- Takes in the parameter that is pending. -/
def settle (reading : Reading) : Except Stop Reading :=
  match reading.pending with
  | none => .ok reading
  | some (param, none) => .error (.error (.missingValue param))
  | some (param, some value) => takeIn { reading with pending := none } param value

/-! ## Named parameters -/

def readSwitch (reading : Reading) (param : Param) : Except Stop Reading := do
  let reading ← reading.settle
  match param with
  | .help => throw .help
  | .version => throw .version
  | param => reading.takeIn param []

/-- Reads an option, whose value may be attached to its name. -/
def readOption (reading : Reading) (param : Param) (attached : Option Text) :
    Except Stop Reading := do
  let reading ← reading.settle
  match attached with
  | some value => reading.takeIn param value
  | none => return { reading with pending := some (param, none) }

/-- The value that is attached to a long name by an equals sign. -/
def attachedToLong? (argument : Text) : Option Text :=
  match argument.dropWhile (· ≠ '=') with
  | _ :: value => some value
  | [] => none

def readLong (params : List Param) (reading : Reading) (argument : Text) : Except Stop Reading :=
  let name := argument.takeWhile (· ≠ '=')
  match params.find? (·.long? = some name), attachedToLong? argument with
  | none, _ => .error (.error (.unknownArgument ("--".toList ++ name)))
  | some param, attached =>
    if param.takesValue then reading.readOption param attached
    else
      match attached with
      | some value => .error (.error (.unexpectedValue value param))
      | none => reading.readSwitch param

/-- The value that is attached to a short name, with or without an equals sign. -/
def attachedToShort? : Text → Option Text
  | [] => none
  | '=' :: value => some value
  | value => some value

/-- Reads what follows one dash: switches, and perhaps an option after them. -/
def readShort (params : List Param) (reading : Reading) : Text → Except Stop Reading
  | [] => .ok reading
  | c :: rest =>
    match params.find? (·.short? = some c) with
    | none => .error (.error (.unknownArgument ['-', c]))
    | some param =>
      if param.takesValue then reading.readOption param (attachedToShort? rest)
      else do
        let reading ← reading.readSwitch param
        readShort params reading rest

/-! ## Arguments -/

/-- Reads an argument. One that names no parameter is the value of the option that waits for one,
and is otherwise left to `readPlain`. -/
def readArgument (params : List Param) (readPlain : Reading → Text → Except Stop Reading)
    (reading : Reading) (argument : Text) : Except Stop Reading :=
  if reading.namesEnded then readPlain reading argument
  else
    match argument with
    -- after two dashes alone every argument is plain
    | ['-', '-'] => .ok { reading with namesEnded := true }
    | '-' :: '-' :: rest => readLong params reading rest
    | '-' :: c :: rest => readShort params reading (c :: rest)
    | argument =>
      match reading.waiting? with
      | some param => .ok { reading with pending := some (param, some argument) }
      | none => readPlain reading argument

end Reading

/-! ## Commands -/

/-- The name of the only command besides `help`. -/
def runName : Text :=
  "run".toList

/-- The name of the command that explains the others. -/
def helpName : Text :=
  "help".toList

/-- Why nothing can stand where a command is expected but its name. -/
def refuseCommand (reading : Reading) (argument : Text) : Except Stop Reading :=
  .error <| .error <|
    if reading.namesEnded && (argument = runName || argument = helpName) then
      .unknownArgument argument
    else .unknownCommand argument

/-- What follows the command `help` can only be the name of a command. -/
def readHelp : List Text → Stop
  | [] => .help
  | name :: rest =>
    if name = runName || name = helpName then
      match rest with
      | [] => .help
      | extra :: _ => .error (.unknownCommand extra)
    else .error (.unknownCommand name)

/-- Reads the general parameters, up to the name of a command. The arguments after it are given
with them. -/
def readGeneral (reading : Reading) : List Text → Except Stop (Reading × Option (List Text))
  | [] => do return (← reading.settle, none)
  | argument :: rest =>
    let named := !reading.namesEnded && reading.waiting?.isNone
    if named && argument = runName then .ok (reading, some rest)
    else if named && argument = helpName then .error (readHelp rest)
    else do
      let reading ← reading.readArgument Param.general refuseCommand argument
      readGeneral reading rest

/-- Reads the source of a job. There is only one. -/
def readInput (reading : Reading) (argument : Text) : Except Stop Reading :=
  if reading.has .input || reading.pending.any (·.1 = .input) then
    .error (.error (.unknownArgument argument))
  else do
    let reading ← reading.settle
    return { reading with pending := some (.input, some argument) }

def readRun (reading : Reading) : List Text → Except Stop Reading
  | [] => reading.settle
  | argument :: rest => do
    let reading ← reading.readArgument Param.ofRun readInput argument
    readRun reading rest

/-- A page is not compared and printed in one job. -/
def checkConflicts (reading : Reading) : Except Stop Unit :=
  match (reading.given.map (·.1)).filter (fun p => p = .check || p = .dryRun) with
  | first :: second :: _ => .error (.error (.conflict first second))
  | _ => .ok ()

/-! ## Jobs -/

/-- What the command `run` is asked to do. -/
structure Job where
  input : Text
  output : Option Text
  noCache : Bool
  dryRun : Bool
  check : Bool
  watch : Bool
deriving Repr, DecidableEq, Inhabited

/-- A command line that was understood. -/
structure Invocation where
  root : Option Text
  verbose : Bool
  noColor : Bool
  job : Except Omission Job
deriving Repr

/-- The job that the arguments of `run` describe. -/
def Reading.job (reading : Reading) : Except Omission Job :=
  match reading.value? .input with
  | none => .error .input
  | some input => .ok {
      input := input
      output := reading.value? .output
      noCache := reading.has .noCache
      dryRun := reading.has .dryRun
      check := reading.has .check
      watch := reading.has .watch }

/-- Reads a command line. A general parameter that stands on both sides of the name of the command
counts as given after it. -/
def Invocation.read (arguments : List Text) : Except Stop Invocation := do
  let (general, rest?) ← readGeneral .start arguments
  match rest? with
  | none =>
    return ⟨general.value? .path, general.has .verbose, general.has .noColor, .error .command⟩
  | some rest =>
    let own ← readRun .start rest
    checkConflicts own
    let general ← general.settle
    return ⟨own.value? .path <|> general.value? .path, own.has .verbose || general.has .verbose,
      own.has .noColor || general.has .noColor, own.job⟩

end Weave.CommandLine

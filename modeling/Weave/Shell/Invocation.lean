import Weave.Shell.Builtin

/-!
# Weave.Shell.Invocation — how a shell is started

The arguments of a shell as a program: options, and then a script, the file that holds one, or
neither if the script is the input.
-/

namespace Weave.Shell

inductive Source where
  | command (script : Text)
  | file (path : Text)
  | input
deriving Repr, DecidableEq, Inhabited

structure Invocation where
  options : List Char
  source : Source
  /-- The name of the script, if it is given. -/
  name : Option Text
  args : List Text
deriving Repr, DecidableEq, Inhabited

namespace Invocation

/-- Options while they are read. -/
structure Flags where
  options : List Char
  command : Bool
deriving Repr, DecidableEq, Inhabited

namespace Flags

/-- The options after one was set or cleared. An error is a complaint. -/
def set (flags : Flags) (value : Bool) (c : Char) : Except Text Flags :=
  if c = 'c' then .ok { flags with command := true }
  else if "efIimnsxvVECabulp".toList.contains c then
    let others := flags.options.filter (· ≠ c)
    .ok { flags with options := if value then others ++ [c] else others }
  else .error ("Illegal option ".toList ++ [if value then '-' else '+', c])

/-- The options after one was set or cleared by its long name. -/
def setLong (flags : Flags) (value : Bool) (name : Text) : Except Text Flags :=
  match Builtin.optionNames.find? (·.1 = name) with
  | some (_, c) => flags.set value c
  | none => .error ("Illegal option ".toList ++ [if value then '-' else '+', 'o', ' '] ++ name)

/-- The options after the letters of an argument, of which an `o` takes a name from the arguments
that follow. -/
def setLetters (flags : Flags) (value : Bool) (rest : List Text) :
    Text → Except Text (Flags × List Text)
  | [] => .ok (flags, rest)
  | 'o' :: letters => do
    match rest with
    | name :: rest => (← flags.setLong value name).setLetters value rest letters
    | [] => flags.setLetters value [] letters
  | c :: letters => do
    (← flags.set value c).setLetters value rest letters

/-- Reads the options at the start of the arguments. The number of arguments is fuel enough. -/
def read (flags : Flags) : Nat → List Text → Except Text (Flags × List Text)
  | 0, args => .ok (flags, args)
  | _ + 1, ['-', '-'] :: rest => .ok (flags, rest)
  | _ + 1, ['-'] :: rest => .ok (flags, rest)
  | fuel + 1, ('-' :: letters) :: rest => do
    let (flags, rest) ← flags.setLetters true rest letters
    flags.read fuel rest
  | fuel + 1, ('+' :: letters) :: rest => do
    let (flags, rest) ← flags.setLetters false rest letters
    flags.read fuel rest
  | _ + 1, rest => .ok (flags, rest)

end Flags

/-- Reads the arguments of a shell. An error is a complaint. -/
def ofArgs (args : List Text) : Except Text Invocation := do
  let (flags, rest) ← Flags.read ⟨[], false⟩ (args.length + 1) args
  if flags.command then
    match rest with
    | script :: name :: args => return ⟨flags.options, .command script, some name, args⟩
    | [script] => return ⟨flags.options, .command script, none, []⟩
    | [] => throw "-c requires an argument".toList
  else if flags.options.contains 's' then return ⟨flags.options, .input, none, rest⟩
  else
    match rest with
    | path :: args => return ⟨flags.options, .file path, some path, args⟩
    | [] => return ⟨flags.options, .input, none, []⟩

end Invocation

end Weave.Shell

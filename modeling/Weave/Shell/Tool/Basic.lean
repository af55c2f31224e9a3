import Weave.Shell.Files

/-!
# Weave.Shell.Tool.Basic — small programs

A tool is a small program that is always there. It is given arguments, its input and the disk, and
it writes bytes, changes the disk and ends with a status. What it writes is kept in order, because
its output and its complaints can go to the same place.
-/

namespace Weave.Shell

/-! ## Work -/

/-- Bytes that a tool wrote: to its output, or as a complaint. -/
inductive Written where
  | out (content : Text)
  | err (content : Text)
deriving Repr, DecidableEq, Inhabited

/-- What a tool works on. -/
structure Bench where
  disk : Disk
  /-- The input that was not read yet. -/
  input : Text
  /-- Whether the input is a file. -/
  fromFile : Bool
  /-- What was written, last first. -/
  written : List Written
  status : Nat
deriving Inhabited

/-- What a tool does. -/
abbrev Work : Type → Type :=
  StateM Bench

/-- A tool: what it does for its arguments. -/
abbrev Tool : Type :=
  List Text → Work Unit

def quoted (s : Text) : Text :=
  '\'' :: s ++ ['\'']

namespace Work

/-- Writes bytes to the output. -/
def print (s : Text) : Work Unit :=
  modify fun b => { b with written := .out s :: b.written }

/-- Writes bytes as a complaint. -/
def warn (s : Text) : Work Unit :=
  modify fun b => { b with written := .err s :: b.written }

/-- Sets the status, unless that is worse already. -/
def worsen (status : Nat) : Work Unit :=
  modify fun b => { b with status := max b.status status }

def complain (tool message : Text) (status : Nat) : Work Unit := do
  warn (Text.endLine (tool ++ ": ".toList ++ message))
  worsen status

def complainOf (tool path : Text) (e : IoError) (status : Nat) : Work Unit :=
  complain tool (path ++ ": ".toList ++ e.reason) status

/-- A tool complains that it cannot do something with a file. -/
def cannot (tool deed path reason : Text) (status : Nat) : Work Unit :=
  complain tool ("cannot ".toList ++ deed ++ ' ' :: quoted path ++ ": ".toList ++ reason) status

/-- A tool complains about its arguments and says where to read about them. -/
def misused (tool message : Text) (status : Nat) : Work Unit := do
  complain tool message status
  warn ("Try \x27".toList ++ tool ++ " --help\x27 for more information.\n".toList)

def takeInput : Work Text :=
  modifyGet fun b => (b.input, { b with input := [] })

/-- Replaces the disk by what becomes of it. -/
def change (f : Disk → Except IoError Disk) : Work (Except IoError Unit) :=
  modifyGet fun b =>
    match f b.disk with
    | .ok disk => (.ok (), { b with disk := disk })
    | .error e => (.error e, b)

/-- The contents of a file, or the input if the name is a hyphen. -/
def source (path : Text) : Work (Except IoError Text) := do
  if path = ['-'] then return .ok (← takeInput)
  else return readFile (← get).disk path

/-- What several files hold, or the input if no file is named. A file that cannot be read is
complained about and passed over. -/
def sources (tool : Text) (paths : List Text) (status : Nat) : Work (List (Text × Text)) := do
  let paths := if paths.isEmpty then [['-']] else paths
  let read ← paths.mapM fun path => do
    match ← source path with
    | .ok s => return some (path, s)
    | .error e => do
      complainOf tool path e status
      return none
  return read.filterMap id

end Work

/-! ## Lines -/

/-- The lines of a text without the line feeds that end them. -/
def linesOf (s : Text) : List Text :=
  (Text.lines s).map (Text.stripLast '\n')

/-- The pieces of a text that a mark ends. -/
def piecesOf (mark : Char) (s : Text) : List Text :=
  let pieces := s.splitOnP (· = mark)
  if pieces.getLast? = some [] then pieces.dropLast else pieces

def unlines (lines : List Text) : Text :=
  lines.flatMap Text.endLine

def padLeft (width : Nat) (fill : Char) (s : Text) : Text :=
  List.replicate (width - s.length) fill ++ s

/-! ## Options -/

structure OptionSpec where
  /-- The letters of options without a value. -/
  flags : String
  /-- The letters of options with a value. -/
  valued : String
  /-- Long names and the letters that mean the same. -/
  long : List (String × Char)
  /-- Whether options end with the first argument that is none. -/
  strict : Bool := false

/-- Arguments after the options among them were read. -/
structure Given where
  options : List (Char × Text)
  operands : List Text
deriving Repr, DecidableEq, Inhabited

namespace Given

def has (given : Given) (letter : Char) : Bool :=
  given.options.any (·.1 = letter)

/-- The last value of an option. -/
def value? (given : Given) (letter : Char) : Option Text :=
  (given.options.reverse.find? (·.1 = letter)).map Prod.snd

def values (given : Given) (letter : Char) : List Text :=
  (given.options.filter (·.1 = letter)).map Prod.snd

end Given

namespace OptionSpec

/-- The long names that a name can be short for. -/
def candidates (spec : OptionSpec) (name : Text) : List (Text × Char) :=
  let long := spec.long.map fun (n, letter) => (n.toList, letter)
  match long.find? (·.1 = name) with
  | some exact => [exact]
  | none => long.filter fun (n, _) => name.isPrefixOf n

/-- The option of a long name. An error is a complaint. -/
def longOption (spec : OptionSpec) (name : Text) : Except Text (Text × Char) :=
  let shown := "\x27--".toList ++ name ++ ['\'']
  match spec.candidates name with
  | [found] => .ok found
  | [] => .error ("unrecognized option ".toList ++ shown)
  | several => .error ("option ".toList ++ shown ++ " is ambiguous; possibilities:".toList
      ++ several.flatMap fun (n, _) => " \x27--".toList ++ n ++ ['\''])

/-- Reads the letters of one argument. The last one may take the next argument as its value, so that
arguments to go on with are given back. -/
def readLetters (spec : OptionSpec) (rest : List Text) :
    Text → Except Text (List (Char × Text) × List Text)
  | [] => .ok ([], rest)
  | c :: letters =>
    if spec.flags.toList.contains c then do
      let (more, rest) ← readLetters spec rest letters
      return ((c, []) :: more, rest)
    else if spec.valued.toList.contains c then
      match letters, rest with
      | [], value :: rest => .ok ([(c, value)], rest)
      | [], [] => .error ("option requires an argument -- \x27".toList ++ [c, '\''])
      | value, rest => .ok ([(c, value)], rest)
    else .error ("invalid option -- \x27".toList ++ [c, '\''])

def readLong (spec : OptionSpec) (s : Text) (rest : List Text) :
    Except Text (List (Char × Text) × List Text) := do
  let (name, value) := match Text.splitAround? ['='] s with
    | some (name, value) => (name, some value)
    | none => (s, none)
  let (full, letter) ← spec.longOption name
  let shown := "option \x27--".toList ++ full ++ ['\'']
  if spec.valued.toList.contains letter then
    match value, rest with
    | some value, rest => return ([(letter, value)], rest)
    | none, value :: rest => return ([(letter, value)], rest)
    | none, [] => throw (shown ++ " requires an argument".toList)
  else
    if value.isSome then throw (shown ++ " doesn\x27t allow an argument".toList)
    return ([(letter, [])], rest)

/-- Reads the options among arguments. The number of arguments is fuel enough. -/
def read (spec : OptionSpec) : Nat → List Text → Except Text Given
  | 0, args => .ok ⟨[], args⟩
  | _ + 1, [] => .ok ⟨[], []⟩
  | _ + 1, ['-', '-'] :: rest => .ok ⟨[], rest⟩
  | fuel + 1, ('-' :: '-' :: name) :: rest => do
    let (options, rest) ← spec.readLong name rest
    let given ← read spec fuel rest
    return { given with options := options ++ given.options }
  | fuel + 1, ('-' :: c :: letters) :: rest => do
    let (options, rest) ← spec.readLetters rest (c :: letters)
    let given ← read spec fuel rest
    return { given with options := options ++ given.options }
  | fuel + 1, operand :: rest => do
    if spec.strict then return ⟨[], operand :: rest⟩
    let given ← read spec fuel rest
    return { given with operands := operand :: given.operands }

/-- The tool that reads its options and then goes on. Wrong options are complained about. -/
def tool (spec : OptionSpec) (name : String) (status : Nat) (work : Given → Work Unit) : Tool :=
  fun args =>
    match spec.read (args.length + 1) args with
    | .ok given => work given
    | .error message => Work.misused name.toList message status

end OptionSpec

end Weave.Shell

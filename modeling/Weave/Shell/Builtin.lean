import Weave.Shell.Condition
import Weave.Shell.Field
import Weave.Shell.Format
import Weave.Shell.Signal

/-!
# Weave.Shell.Builtin — the commands of the shell itself

The commands that read or change the state of the shell and run no other command.
-/

namespace Weave.Shell

/-! ## Names -/

/-- The commands of the shell whose errors end it, and after which assignments stay. -/
def specialNames : List Text :=
  [".", ":", "break", "continue", "eval", "exec", "exit", "export", "local", "readonly", "return",
   "set", "shift", "times", "trap", "unset"].map String.toList

/-- The other commands of the shell. -/
def regularNames : List Text :=
  ["[", "alias", "bg", "cd", "command", "echo", "false", "fg", "getopts", "hash", "jobs", "kill",
   "printf", "pwd", "read", "test", "true", "type", "ulimit", "umask", "unalias", "wait"].map
    String.toList

/-- The commands of the shell whose arguments can be assignments. -/
def declares (name : Text) : Bool :=
  (["export", "local", "readonly"].map String.toList).contains name

/-- A text in single quotes, from which a script reads it again. -/
def singleQuoted (s : Text) : Text :=
  let piece := fun run : Text =>
    if run.head? = some '\'' then '"' :: run ++ ['"'] else '\'' :: run ++ ['\'']
  if s.isEmpty then "\x27\x27".toList
  else ((s.splitBy fun a b => (a = '\'') = (b = '\'')).map piece).flatten

namespace Builtin

/-! ## Helpers -/

/-- Complains about the use of a command, and ends the shell. -/
def refuse {α : Type} (name : Text) (message : Text) : Act α := do
  Act.complainIn name message 2
  throw .exit

/-- Complains about the use of a command that does not end the shell. -/
def mistake (name message : Text) (status : Nat) : Act Unit :=
  .complainIn name message status

/-- The number that an argument is. -/
def count (name argument : Text) : Act Nat :=
  if Text.isDigits argument && Text.toNat argument < Nat.pow 2 31 then return Text.toNat argument
  else refuse name ("Illegal number: ".toList ++ argument)

/-- The letters of the options that the arguments begin with, and the other arguments. Any letter
but those that are allowed is refused. -/
def splitOptions (name allowed : Text) : List Text → Act (Text × List Text)
  | [] => return ([], [])
  | ['-', '-'] :: rest => return ([], rest)
  | ('-' :: c :: letters) :: rest => do
    match (c :: letters).find? fun c => !allowed.contains c with
    | some c => refuse name ("Illegal option -".toList ++ [c])
    | none =>
      let (more, rest) ← splitOptions name allowed rest
      return (c :: letters ++ more, rest)
  | rest => return ([], rest)

/-- The name before an equals sign and what follows it. -/
def splitAssignment (s : Text) : Text × Option Text :=
  match Text.splitAround? ['='] s with
  | some (name, value) => (name, some value)
  | none => (s, none)

/-- Refuses what is no name of a variable. -/
def checkName (builtin name : Text) : Act Unit := do
  if !isName name then refuse builtin (name ++ ": bad variable name".toList)

/-! ## Printing and asking -/

/-- Prints its arguments with spaces between them and a line feed after them. -/
def echo (args : List Text) : Act Unit := do
  let (bare, args) := match args with
    | ['-', 'n'] :: rest => (true, rest)
    | _ => (false, args)
  let line := (args.intersperse [' ']).flatten
  let (s, stopped) := unescapeArgument (line.length + 1) line
  let sh ← get
  if (sh.channel? 1).isNone then mistake "echo".toList "echo: I/O error".toList 1
  else
    Act.write 1 (if bare || stopped then s else s ++ ['\n'])
    Act.status 0

/-- Prints a format with arguments put in. -/
def printf (args : List Text) : Act Unit := do
  let args := if args.head? = some ['-', '-'] then args.tail else args
  match args with
  | [] => mistake "printf".toList "usage: printf format [arg ...]".toList 2
  | format :: args =>
    let p := Printing.ofFormat format args
    p.complaints.forM fun message => mistake "printf".toList message 1
    Act.write 1 p.output.reverse
    Act.status (if p.failed then 2 else if p.complaints.isEmpty then 0 else 1)

/-- Answers a condition by the status. -/
def test (name : Text) (args : List Text) : Act Unit := do
  let sh ← get
  match Condition.answer sh.disk args with
  | .ok answer => Act.status (if answer then 0 else 1)
  | .error e => mistake name e.message 2

/-- Answers a condition in brackets. -/
def bracket (args : List Text) : Act Unit :=
  if args.getLast? = some [']'] then test ['['] args.dropLast
  else mistake ['['] "missing ]".toList 2

/-! ## Directories -/

/-- Changes the working directory. -/
def cd (args : List Text) : Act Unit := do
  let (_, args) ← splitOptions "cd".toList ['L', 'P'] args
  let sh ← get
  let target := args.head?.getD ((sh.vars.get? "HOME".toList).getD [])
  let path := if target = ['-'] then (sh.vars.get? "OLDPWD".toList).getD [] else target
  if path.isEmpty then Act.status 0
  else if isDirectory sh.disk path then
    let old := workingPath sh.disk
    let disk := { sh.disk with workDir := locationOf sh.disk path }
    set { sh with
      disk := disk
      vars := (sh.vars.insert "OLDPWD".toList old).insert "PWD".toList (workingPath disk) }
    if target = ['-'] then Act.write 1 (Text.endLine (workingPath disk))
    Act.status 0
  else mistake "cd".toList ("can\x27t cd to ".toList ++ path) 2

/-- Prints the working directory. -/
def pwd : Act Unit := do
  Act.write 1 (Text.endLine (workingPath (← get).disk))
  Act.status 0

/-! ## Reading -/

/-- The line at the start of the input, in which escaped characters are marked, whether it was
ended, and the rest of the input. With `raw` nothing is escaped. -/
def readLine (raw : Bool) : Text → Marked × Bool × Text
  | [] => ([], false, [])
  | '\n' :: rest => ([], true, rest)
  | '\\' :: c :: rest =>
    if raw then
      let (s, ended, rest) := readLine raw (c :: rest)
      (('\\', false) :: s, ended, rest)
    else
      let (s, ended, rest) := readLine raw rest
      (if c = '\n' then s else (c, true) :: s, ended, rest)
  | c :: rest =>
    let (s, ended, rest) := readLine raw rest
    (if c = '\\' && !raw then s else (c, false) :: s, ended, rest)

/-- Whether a character of a line is a separator that is blank. -/
def isBlankAt (separators : Text) (c : Char × Bool) : Bool :=
  !c.2 && separators.contains c.1 && (c.1 = ' ' || c.1 = '\t' || c.1 = '\n')

def isSeparatorAt (separators : Text) (c : Char × Bool) : Bool :=
  !c.2 && separators.contains c.1

/-- The first word of a line and what follows the separator after it. -/
def splitWord (separators : Text) (line : Marked) : Marked × Marked :=
  let word := line.takeWhile fun c => !isSeparatorAt separators c
  let rest := (line.drop word.length).dropWhile (isBlankAt separators)
  let rest := match rest with
    | c :: more =>
      let closed := line.drop word.length
      if isSeparatorAt separators c && !closed.isEmpty then
        more.dropWhile (isBlankAt separators)
      else rest
    | [] => []
  (word, rest)

/-- The words of a line for so many names. The last one takes what is left of the line, unless that
is a single word and its separator. -/
def lineWords (separators : Text) : Nat → Marked → List Text
  | 0, _ => []
  | 1, line =>
    let (word, rest) := splitWord separators line
    let trimmed := (line.reverse.dropWhile fun c => isBlankAt separators (c.1, false)).reverse
    [unmark (if rest.isEmpty then word else trimmed)]
  | n + 1, line =>
    let (word, rest) := splitWord separators line
    unmark word :: lineWords separators n rest

/-- Reads a line of the input into variables. The status says whether the line was ended. -/
def read (args : List Text) : Act Unit := do
  let (raw, args) := match args with
    | ['-', 'r'] :: rest => (true, rest)
    | rest => (false, rest)
  -- nobody sees the prompt
  let args := match args with
    | ['-', 'p'] :: _ :: rest => rest
    | rest => rest
  let (raw, names) := match args with
    | ['-', 'r'] :: rest => (true, rest)
    | rest => (raw, rest)
  if names.isEmpty then mistake "read".toList "arg count".toList 2
  else
    let sh ← get
    let (line, ended, rest) := readLine raw (sh.waiting 0)
    set (sh.withRest 0 rest)
    let separators := sh.separators
    let words := lineWords separators names.length (line.dropWhile (isBlankAt separators))
    (names.zip words).forM fun (name, word) => do
      checkName "read".toList name
      Act.setVar name word
    Act.status (if ended then 0 else 1)

/-! ## Variables -/

/-- The lines that declare variables again. -/
def declarations (word : Text) (names : List Text) (vars : Store Text Text) : Text :=
  let line := fun name => match vars.get? name with
    | some value => word ++ ' ' :: name ++ '=' :: singleQuoted value
    | none => word ++ ' ' :: name
  (names.mergeSort notAfter).flatMap fun name => Text.endLine (line name)

/-- Gives variables to programs. -/
def exportNames (args : List Text) : Act Unit := do
  let (_, args) ← splitOptions "export".toList ['p'] args
  let sh ← get
  if args.isEmpty then Act.write 1 (declarations "export".toList sh.exported sh.vars)
  else
    args.forM fun a => do
      let (name, value) := splitAssignment a
      checkName "export".toList name
      value.forM (Act.setVar name)
      modify fun sh => { sh with
        exported := if sh.exported.contains name then sh.exported else sh.exported ++ [name] }
  Act.status 0

/-- Makes variables constant. -/
def fixNames (args : List Text) : Act Unit := do
  let (_, args) ← splitOptions "readonly".toList ['p'] args
  let sh ← get
  if args.isEmpty then Act.write 1 (declarations "readonly".toList sh.fixed sh.vars)
  else
    args.forM fun a => do
      let (name, value) := splitAssignment a
      checkName "readonly".toList name
      value.forM (Act.setVar name)
      modify fun sh => { sh with
        fixed := if sh.fixed.contains name then sh.fixed else sh.fixed ++ [name] }
  Act.status 0

/-- Remembers the value of a variable until the function that is running ends. -/
def save (name : Text) : Act Unit :=
  modify fun sh =>
    match sh.saved with
    | frame :: frames =>
      if frame.any (·.1 = name) then sh
      else { sh with saved := ((name, sh.vars.get? name) :: frame) :: frames }
    | [] => sh

/-- Makes variables a function's own. -/
def ownNames (args : List Text) : Act Unit := do
  if (← get).saved.isEmpty then refuse "local".toList "not in a function".toList
  args.forM fun a => do
    let (name, value) := splitAssignment a
    if name ≠ ['-'] then
      checkName "local".toList name
      save name
      value.forM (Act.setVar name)
  Act.status 0

/-- Forgets variables or functions. -/
def unset (args : List Text) : Act Unit := do
  let (letters, args) ← splitOptions "unset".toList ['f', 'v'] args
  args.forM fun name => do
    if letters.contains 'f' then
      modify fun sh => { sh with functions := sh.functions.erase name }
    else
      checkName "unset".toList name
      if (← get).fixed.contains name then
        refuse "unset".toList (name ++ ": is read only".toList)
      modify fun sh => { sh with
        vars := sh.vars.erase name
        exported := sh.exported.filter (· ≠ name) }
  Act.status 0

/-! ## Options and arguments -/

/-- The long names of the options and their letters. -/
def optionNames : List (Text × Char) :=
  [("errexit", 'e'), ("noglob", 'f'), ("ignoreeof", 'I'), ("interactive", 'i'), ("monitor", 'm'),
   ("noexec", 'n'), ("stdin", 's'), ("xtrace", 'x'), ("verbose", 'v'), ("vi", 'V'), ("emacs", 'E'),
   ("noclobber", 'C'), ("allexport", 'a'), ("notify", 'b'), ("nounset", 'u'), ("privileged", 'p'),
   ("nolog", 'L'), ("debug", 'D')].map fun (name, letter) => (name.toList, letter)

def setOption (value : Bool) (letter : Char) : Act Unit :=
  modify fun sh =>
    let others := sh.options.filter (· ≠ letter)
    { sh with options := if value then others ++ [letter] else others }

def setLetters (value : Bool) (letters : Text) : Act Unit :=
  letters.forM fun c =>
    if "efIimnsxvVECabup".toList.contains c then setOption value c
    else refuse "set".toList ("Illegal option ".toList ++ [if value then '-' else '+', c])

def setLongOption (value : Bool) (name : Text) : Act Unit :=
  match optionNames.find? (·.1 = name) with
  | some (_, letter) => setOption value letter
  | none =>
    refuse "set".toList ("Illegal option ".toList ++ [if value then '-' else '+', 'o', ' '] ++ name)

/-- The lines that show all options. -/
def optionTable (options : List Char) : Text :=
  Text.endLine "Current option settings".toList ++ optionNames.flatMap fun (name, letter) =>
    Text.endLine (name ++ List.replicate (16 - name.length) ' '
      ++ (if options.contains letter then "on" else "off").toList)

/-- The commands that set all options as they are. -/
def optionScript (options : List Char) : Text :=
  optionNames.flatMap fun (name, letter) =>
    let sign := if options.contains letter then '-' else '+'
    Text.endLine ("set ".toList ++ sign :: "o ".toList ++ name)

/-- Sets options and then the arguments. -/
def setArgs : List Text → Act Unit
  | [] => return
  | ['-', '-'] :: rest => modify ({ · with args := rest })
  | ['-'] :: rest => do
    setLetters false ['x', 'v']
    if !rest.isEmpty then modify ({ · with args := rest })
  | ['-', 'o'] :: name :: rest => do
    setLongOption true name
    setArgs rest
  | ['+', 'o'] :: name :: rest => do
    setLongOption false name
    setArgs rest
  | [['-', 'o']] => do
    Act.write 1 (optionTable (← get).options)
  | [['+', 'o']] => do
    Act.write 1 (optionScript (← get).options)
  | ('-' :: letters) :: rest => do
    setLetters true letters
    setArgs rest
  | ('+' :: letters) :: rest => do
    setLetters false letters
    setArgs rest
  | rest => modify ({ · with args := rest })

/-- Sets options and arguments, or prints all variables. -/
def setAll (args : List Text) : Act Unit := do
  if args.isEmpty then
    let vars := (← get).vars
    Act.write 1 ((vars.keys.mergeSort notAfter).flatMap fun name =>
      Text.endLine (name ++ '=' :: singleQuoted ((vars.get? name).getD [])))
  else setArgs args
  Act.status 0

/-- Drops arguments from the front. -/
def shift (args : List Text) : Act Unit := do
  let n ← match args with
    | [] => pure 1
    | a :: _ => count "shift".toList a
  let sh ← get
  if sh.args.length < n then refuse "shift".toList "can\x27t shift that many".toList
  set { sh with args := sh.args.drop n, status := 0 }

/-- Where the next option is looked for: the argument, and the place in it. -/
structure OptionPlace where
  index : Nat
  place : Nat
deriving Repr, DecidableEq, Inhabited

/-- The letter at a place and the place after it. Nothing if there are no more options; then only
the argument to go on with is known. -/
def nextOption (args : List Text) (start : OptionPlace) : Nat × Option (Char × OptionPlace) :=
  -- inside an argument the next one counts already
  let index := if start.place = 0 then start.index else start.index - 1
  let place := max start.place 1
  match args[index - 1]? with
  | none => (index, none)
  | some argument =>
    if argument = ['-', '-'] then (index + 1, none)
    else if start.place = 0 && (argument.head? ≠ some '-' || argument.length = 1) then (index, none)
    else
      let ends := argument.length ≤ place + 1
      (index, some (argument.getD place '?', ⟨index + 1, if ends then 0 else place + 1⟩))

/-- Looks for the next option among arguments. -/
def getopts (args : List Text) : Act Unit := do
  match args with
  | letters :: name :: args =>
    let sh ← get
    let args := if args.isEmpty then sh.args else args
    let index := ((sh.vars.get? "OPTIND".toList).map Text.toNat).getD 1
    -- a script that has set the index begins at the first letter of an argument
    let place := if index = sh.optionIndex then sh.optionPlace else 0
    -- a colon in front leaves the complaints to the script
    let (quiet, letters) := match letters with
      | ':' :: rest => (true, rest)
      | rest => (false, rest)
    let finish := fun (status : Nat) (next : OptionPlace) (c : Char) (value : Option Text) => do
      Act.setVar "OPTIND".toList (Text.ofNat next.index)
      modify fun sh => { sh.withOldVar "OPTARG".toList value with
        optionIndex := next.index, optionPlace := next.place }
      Act.setVar name [c]
      Act.status status
    match nextOption args ⟨index, place⟩ with
    | (index, none) => finish 1 ⟨index, 0⟩ '?' none
    | (_, some (c, next)) =>
      match Text.splitAround? [c] letters with
      | none =>
        if quiet then finish 0 next '?' (some [c])
        else
          Act.write 2 ("Illegal option -".toList ++ [c, '\n'])
          finish 0 next '?' none
      | some (_, ':' :: _) =>
        if next.place ≠ 0 then
          finish 0 ⟨next.index, 0⟩ c (some ((args.getD (next.index - 2) []).drop next.place))
        else
          match args[next.index - 1]? with
          | some value => finish 0 ⟨next.index + 1, 0⟩ c (some value)
          | none =>
            if quiet then finish 0 next ':' (some [c])
            else
              Act.write 2 ("No arg for -".toList ++ [c] ++ " option\n".toList)
              finish 0 next '?' none
      | some _ => finish 0 next c none
  | _ => mistake "getopts".toList "usage: getopts optstring var [arg]".toList 2

/-! ## Aliases -/

/-- Gives words other meanings, or prints them. -/
def setAliases (args : List Text) : Act Unit := do
  let line := fun (name meaning : Text) => Text.endLine (name ++ '=' :: singleQuoted meaning)
  Act.status 0
  if args.isEmpty then
    Act.write 1 ((← get).aliases.entries.flatMap fun (name, meaning) => line name meaning)
  args.forM fun a => do
    match splitAssignment a with
    | (name, some meaning) => modify fun sh => { sh with aliases := sh.aliases.insert name meaning }
    | (name, none) =>
      match (← get).aliases.get? name with
      | some meaning => Act.write 1 (line name meaning)
      | none =>
        Act.write 2 ("alias: ".toList ++ name ++ " not found\n".toList)
        Act.status 1

/-- Takes the other meanings from words. -/
def unsetAliases (args : List Text) : Act Unit := do
  Act.status 0
  args.forM fun a => do
    if a = ['-', 'a'] then modify fun sh => { sh with aliases := .empty }
    else if ((← get).aliases.get? a).isSome then
      modify fun sh => { sh with aliases := sh.aliases.erase a }
    else
      Act.write 2 ("unalias: ".toList ++ a ++ " not found\n".toList)
      Act.status 1

/-! ## Leaving -/

def exit (args : List Text) : Act Unit := do
  if let a :: _ := args then
    Act.status ((← count "exit".toList a) % 256)
  throw .exit

def leaveFunction (args : List Text) : Act Unit := do
  if let a :: _ := args then
    Act.status (← count "return".toList a)
  throw .function

/-- Leaves loops, or goes on with the next round of one. Outside of loops nothing is done. -/
def leaveLoops (name : Text) (leave : Nat → Leave) (args : List Text) : Act Unit := do
  let n ← match args with
    | [] => pure 1
    | a :: _ => count name a
  let sh ← get
  if n = 0 then refuse name ("Illegal number: ".toList ++ args.headD [])
  set { sh with status := 0 }
  if 0 < sh.loops then throw (leave (min n sh.loops))

/-! ## Signals -/

/-- Says what is done when signals arrive, or prints that. -/
def trap (args : List Text) : Act Unit := do
  let args := if args.head? = some ['-', '-'] then args.tail else args
  let sh ← get
  Act.status 0
  match args with
  | [] =>
    Act.write 1 (signalNames.flatMap fun name =>
      match sh.traps.get? name with
      | some action =>
        Text.endLine ("trap -- ".toList ++ singleQuoted action ++ ' ' :: name)
      | none => [])
  | first :: rest =>
    -- a number in the place of an action is a signal, as the others are
    let clears := rest.isEmpty || first = ['-'] || Text.isDigits first
    let signals := if rest.isEmpty || Text.isDigits first then args else rest
    signals.forM fun s =>
      match signal? s with
      | none => do
        Act.write 2 ("trap: ".toList ++ s ++ ": bad trap\n".toList)
        Act.status 1
      | some n => modify fun sh => { sh with
          traps := if clears then sh.traps.erase (signalName n)
            else sh.traps.insert (signalName n) first }

/-- A signal arrives at the shell. -/
def receive (n : Nat) : Act Unit := do
  let sh ← get
  match sh.traps.get? (signalName n) with
  | some [] => return
  | some _ => set { sh with pending := sh.pending ++ [signalName n] }
  | none => if !isHarmless n then throw (.killed n)

/-- The signal that arguments ask for, and the processes that it is sent to. -/
def killTargets (args : List Text) : Act (Option Nat × List Text) :=
  match args with
  | ['-', 's'] :: name :: rest => return (signal? name, rest)
  | ['-', '-'] :: rest => return (signal? "TERM".toList, rest)
  | ('-' :: c :: name) :: rest =>
    match signal? (c :: name) with
    | some n => return (some n, rest)
    | none => do
      mistake "kill".toList ("Illegal option -".toList ++ [c]) 2
      return (none, [])
  | rest => return (signal? "TERM".toList, rest)

def kill (args : List Text) : Act Unit := do
  match args with
  | [] =>
    let usage := "Usage: kill [-s sigspec | -signum | -sigspec] [pid | job]... or\n"
    mistake "kill".toList (usage.toList ++ "kill -l [exitstatus]".toList) 2
  | [['-', 'l']] =>
    Act.write 1 (['0', '\n'] ++ (signalNames.drop 1).flatMap Text.endLine)
    Act.status 0
  | ['-', 'l'] :: n :: _ =>
    Act.write 1 (Text.endLine (signalName (Text.toNat n % 128)))
    Act.status 0
  | args =>
    match ← killTargets args with
    | (some n, targets) =>
      Act.status 0
      targets.forM fun target => do
        let sh ← get
        if target = Text.ofNat sh.process || target = ['0'] then receive n
        else if !sh.jobs.keys.contains (Text.toNat target) then
          mistake "kill".toList "No such process\n".toList 1
    | (none, _) => Act.status 2

/-- Waits for commands in the background, which have all ended. -/
def wait (args : List Text) : Act Unit := do
  Act.status 0
  args.forM fun a => do
    let n ← count "wait".toList a
    Act.status (((← get).jobs.get? n).getD 127)

/-! ## Permissions -/

/-- Prints or sets the permissions that new files are not given. -/
def umask (args : List Text) : Act Unit := do
  match args with
  | [] =>
    let digits := Nat.toDigits 8 (← get).mask
    Act.write 1 (Text.endLine (List.replicate (4 - digits.length) '0' ++ digits))
    Act.status 0
  | mode :: _ =>
    if mode.head?.any Char.isDigit then
      match Text.digitsValue? 8 mode with
      | some n =>
        modify fun sh => { sh with mask := n % 512 }
        Act.status 0
      | none => refuse "umask".toList ("Illegal number: ".toList ++ mode)
    else refuse "umask".toList ("Illegal mode: ".toList ++ mode)

/-! ## The table -/

/-- Runs a command of the shell that runs no other command, if there is one of that name. -/
def run? (name : Text) (args : List Text) : Option (Act Unit) :=
  match String.ofList name with
  | ":" => some (Act.status 0)
  | "true" => some (Act.status 0)
  | "false" => some (Act.status 1)
  | "echo" => some (echo args)
  | "printf" => some (printf args)
  | "test" => some (test name args)
  | "[" => some (bracket args)
  | "cd" => some (cd args)
  | "pwd" => some pwd
  | "read" => some (read args)
  | "export" => some (exportNames args)
  | "readonly" => some (fixNames args)
  | "local" => some (ownNames args)
  | "unset" => some (unset args)
  | "set" => some (setAll args)
  | "shift" => some (shift args)
  | "getopts" => some (getopts args)
  | "alias" => some (setAliases args)
  | "unalias" => some (unsetAliases args)
  | "exit" => some (exit args)
  | "return" => some (leaveFunction args)
  | "break" => some (leaveLoops name .loops args)
  | "continue" => some (leaveLoops name .round args)
  | "trap" => some (trap args)
  | "kill" => some (kill args)
  | "wait" => some (wait args)
  | "umask" => some (umask args)
  | "times" => some do
    Act.write 1 "0m0.00s 0m0.00s\n0m0.00s 0m0.00s\n".toList
    Act.status 0
  | "ulimit" => some do
    if args.isEmpty || args.any (·.head? = some '-') then Act.write 1 "unlimited\n".toList
    Act.status 0
  | "hash" => some (Act.status 0)
  | "jobs" => some (Act.status 0)
  | "bg" => some (mistake name "No current job".toList 2)
  | "fg" => some (mistake name "No current job".toList 2)
  | _ => none

end Builtin

end Weave.Shell

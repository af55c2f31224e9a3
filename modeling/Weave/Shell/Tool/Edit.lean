import Weave.Shell.Tool.Edit.Machine
import Weave.Shell.Tool.Edit.Script

/-!
# Weave.Shell.Tool.Edit — the line editor

Reads a program from the arguments and runs it on the lines of files, which are printed or written
back.
-/

namespace Weave.Shell.Edit

/-! ## Scripts -/

/-- A part of a program. -/
structure Source where
  /-- The file that holds it, if it is no argument. -/
  file : Option Text
  content : Text
deriving Repr, DecidableEq, Inhabited

/-- Where the character after so many others of the program stands: the place is said as a reader of
complaints expects it. -/
def placeOf : Nat → List Source → Nat → Text
  | _, [], _ => []
  | count, source :: rest, used =>
    let count := if source.file.isNone then count + 1 else count
    if used ≤ source.content.length || rest.isEmpty then
      match source.file with
      | none => "-e expression #".toList ++ Text.ofNat count ++ ", char ".toList ++ Text.ofNat used
      | some file =>
        let line := ((source.content.take (used - 1)).filter (· = '\n')).length + 1
        "file ".toList ++ file ++ " line ".toList ++ Text.ofNat line
    else placeOf count rest (used - (source.content.length + 1))

def joined (sources : List Source) : Text :=
  ((sources.map (·.content)).intersperse ['\n']).flatten

/-- The program that parts are together. An error is a complaint. -/
def compile (extended : Bool) (sources : List Source) : Except Text (List Step) :=
  let s := joined sources
  (parse extended s).mapError fun e =>
    let place := match e.spot with
      | .before left => placeOf 0 sources (s.length - left) ++ ": ".toList
      | .start => placeOf 0 sources 0 ++ ": ".toList
      | .nowhere => []
    place ++ e.message

/-! ## Running -/

structure Style where
  silent : Bool
  /-- The mark at the end of lines. -/
  mark : Char
  /-- Whether each file is edited by itself. -/
  separate : Bool
  /-- The ending for copies of files that are written back, if files are. -/
  inPlace : Option Text
deriving Repr, DecidableEq, Inhabited

def linesWith (mark : Char) (file s : Text) : List Line :=
  let pieces := s.splitOnP (· = mark)
  let full := pieces.dropLast.map fun piece => Line.mk file piece true
  full ++ match pieces.getLast? with
    | some [] => []
    | some piece => [Line.mk file piece false]
    | none => []

/-- A machine before its first line. -/
def Style.machine (style : Style) (disk : Disk) (program : List Step) : Machine where
  program := program
  silent := style.silent
  mark := style.mark
  disk := disk
  lines := []
  number := 0
  line := default
  held := []
  queue := []
  output := []
  isOpen := false
  spans := .empty
  replaced := false
  latest := none
  written := (program.filterMap fun step => step.deed.written?).foldl (fun written file =>
    if file = "/dev/stdout".toList then written else written.insert file []) .empty
  consumed := .empty

/-- Runs the machine on lines and prints what it printed. Says whether it went on to the end. -/
def edit (m : Machine) (lines : List Line) : Work (Machine × Text × Bool) := do
  let m := { m with lines := lines, output := [] }
  let (result, m) := ((cycles (stepFuel + lines.length) true).run).run m
  let printed := m.output.reverse.flatten
  match result with
  | .error message =>
    Work.complain "sed".toList message 1
    return (m, printed, false)
  | .ok status =>
    Work.worsen status
    return (m, printed, m.lines.isEmpty && status = 0)

/-- Reads a file, and complains if that cannot be done. -/
def load (style : Style) (path : Text) : Work (Option (List Line)) := do
  match ← Work.source path with
  | .ok s => return some (linesWith style.mark path s)
  | .error .isADirectory =>
    if style.inPlace.isSome then
      Work.complain "sed".toList
        ("couldn\x27t edit ".toList ++ path ++ ": not a regular file".toList) 4
    else
      Work.complain "sed".toList ("read error on ".toList ++ path ++ ": Is a directory".toList) 4
    return none
  | .error e =>
    Work.complain "sed".toList ("can\x27t read ".toList ++ path ++ ": ".toList ++ e.reason) 2
    return none

/-- Puts a text into a file. What cannot be written is passed over. -/
def save (path s : Text) : Work Unit := do
  let _ ← Work.change fun disk => writeFile disk path s

/-- The name of a copy of a file. -/
def backupPath (path ending : Text) : Text :=
  if ending.contains '*' then ending.flatMap fun c => if c = '*' then path else [c]
  else path ++ ending

def editEach (style : Style) : Machine → List Text → Work Machine
  | m, [] => return m
  | m, path :: rest => do
    match ← load style path with
    | none => editEach style m rest
    | some lines =>
      let (m, printed, goesOn) ← edit { m with number := 0, spans := .empty } lines
      match style.inPlace with
      | none => Work.print printed
      | some ending =>
        let old := (← Work.source path).toOption.getD []
        if !ending.isEmpty then save (backupPath path ending) old
        save path printed
      if goesOn then editEach style { m with isOpen := style.inPlace.isNone && m.isOpen } rest
      else return m

def editAll (style : Style) (program : List Step) (paths : List Text) : Work Unit := do
  let disk := (← get).disk
  let m := style.machine disk program
  let m ← if style.separate then editEach style m paths
    else do
      let lines ← paths.filterMapM (load style)
      let (m, printed, _) ← edit m lines.flatten
      Work.print printed
      pure m
  m.written.entries.forM fun (path, s) => save path s

/-! ## Arguments -/

def spec : OptionSpec where
  flags := "nErsuzi"
  valued := "efl"
  long := [("quiet", 'n'), ("silent", 'n'), ("expression", 'e'), ("file", 'f'),
    ("regexp-extended", 'E'), ("separate", 's'), ("null-data", 'z'), ("unbuffered", 'u'),
    ("in-place", 'i')]

/-- The arguments without the endings for copies of files, and the last ending. -/
def splitEnding (args : List Text) : List Text × Text :=
  args.foldl (fun (kept, ending) a =>
    match Text.after? "--in-place=".toList a with
    | some e => (kept ++ ["-i".toList], e)
    | none =>
      let letters := a.takeWhile fun c => c ≠ 'i'
      if !"--".toList.isPrefixOf a && a.head? = some '-' && letters.length + 1 < a.length
          && letters.tail.all fun c => "nErsuz".toList.contains c then
        (kept ++ [letters ++ ['i']], a.drop (letters.length + 1))
      else (kept ++ [a], ending)) ([], [])

/-- The parts of the program that the options give. An error is a complaint. -/
def sourcesOf (disk : Disk) (input : Text) (given : Given) : Except Text (List Source) :=
  given.options.filterMapM fun (letter, value) => do
    if letter = 'e' then return some ⟨none, value⟩
    else if letter = 'f' then
      match if value = ['-'] then .ok input else readFile disk value with
      | .ok s => return some ⟨some value, Text.stripLast '\n' s⟩
      | .error e => throw ("couldn\x27t open file ".toList ++ value ++ ": ".toList ++ e.reason)
    else return none

def tool : Tool := fun args => do
  let (args, ending) := splitEnding args
  match spec.read (args.length + 1) args with
  | .error message => Work.complain "sed".toList message 1
  | .ok given =>
    let b ← get
    match sourcesOf b.disk b.input given with
    | .error message => Work.complain "sed".toList message 4
    | .ok sources =>
      -- the program is an argument, unless options gave one
      let (sources, paths) := match sources, given.operands with
        | [], first :: rest => ([Source.mk none first], rest)
        | sources, paths => (sources, paths)
      if sources.isEmpty then
        Work.warn ("Usage: sed [OPTION]... ".toList
          ++ "\x7bscript-only-if-no-other-script\x7d [input-file]...\n".toList)
        Work.worsen 1
      else
        match compile (given.has 'E' || given.has 'r') sources with
        | .error message => Work.complain "sed".toList message 1
        | .ok program =>
          -- the first line can ask for silence, too
          let quiet := "#n\n".toList.isPrefixOf (joined sources ++ ['\n'])
          let style : Style :=
            { silent := given.has 'n' || quiet
              mark := if given.has 'z' then '\x00' else '\n'
              separate := given.has 's' || given.has 'i'
              inPlace := if given.has 'i' then some ending else none }
          editAll style program (if paths.isEmpty then [['-']] else paths)

end Weave.Shell.Edit

import Weave.Process
import Weave.Shell.Run

/-!
# Weave.Shell.Program — the programs of a system

A system with a shell and tools, which can be started with arguments. What they leave is what they
wrote, their status and the disk.
-/

namespace Weave.Shell

/-! ## The shell -/

def runFuel : Nat := 100000

/-- The variables that a shell is given. -/
def environment (disk : Disk) : List (Text × Text) :=
  [("HOME".toList, "/root".toList),
   ("PATH".toList, "/usr/local/sbin:/usr/local/bin:/usr/sbin:/usr/bin:/sbin:/bin".toList),
   ("PWD".toList, workingPath disk)]

/-- A shell before its first command. Its channels are its input, its output and its complaints. -/
def start (disk : Disk) (invocation : Invocation) : State where
  disk := disk
  process := 4242
  name := invocation.name.getD "sh".toList
  args := invocation.args
  line := 0
  context := []
  vars := (environment disk).foldl (fun vars (name, value) => vars.insert name value)
    State.ownVariables
  exported := (environment disk).map Prod.fst
  fixed := []
  functions := .empty
  aliases := .empty
  traps := .empty
  options := invocation.options
  saved := []
  loops := 0
  status := 0
  outputStatus := 0
  channels := (List.range 3).foldl (fun channels id => channels.insert id (.pipe [])) .empty
  nextChannel := 3
  descriptors := (List.range 3).foldl (fun descriptors id => descriptors.insert id id) .empty
  jobs := .empty
  optionIndex := 1
  optionPlace := 0
  pending := []
  mask := 18

def writtenTo (sh : State) (id : Nat) : ByteArray :=
  match sh.channels.get? id with
  | some channel => Text.toBytes (channel.waiting sh.disk)
  | none => ByteArray.empty

/-- What an action left that is all of a program. -/
def finished (act : Act Unit) (sh : State) : Finished :=
  let (result, sh) := (act.run).run sh
  let status := match result with
    | .error (.killed _) | .error .endless => .killed
    | _ => .code sh.status
  ⟨writtenTo sh 1, writtenTo sh 2, status, sh.disk⟩

/-- Runs the shell as a program. -/
def shellProgram (args : List Text) (disk : Disk) : Finished :=
  match Invocation.ofArgs args with
  | .error message =>
    ⟨ByteArray.empty, Text.toBytes ("sh: 0: ".toList ++ message ++ ['\n']), .code 2, disk⟩
  | .ok invocation => finished (Run.main runFuel invocation.source) (start disk invocation)

/-- Runs another program without input. -/
def toolProgram (name : Text) (args : List Text) (disk : Disk) : Finished :=
  finished (Run.program runFuel name args) (start disk ⟨[], .input, none, []⟩)

/-! ## Starting -/

/-- Why a file cannot be started as a program. -/
def notStarted (disk : Disk) (path : Text) : IoError :=
  match disk.stat path with
  | .ok _ => .permissionDenied
  | .error e => e

/-- A system with a shell and tools. No file on the disk can be started. -/
def programs : Programs := fun program args disk =>
  let name := programName program
  let args := args.map Text.widen
  if name = "sh".toList || name = "dash".toList then .ok (shellProgram args disk)
  else if isProgram name then .ok (toolProgram name args disk)
  else if program.contains '/' then .error (notStarted disk program)
  else .error .notFound

end Weave.Shell

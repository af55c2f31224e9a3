import Weave.Shell.Arithmetic
import Weave.Shell.Command
import Weave.Shell.Files

/-!
# Weave.Shell.State — what a shell knows

The state of a shell: the disk, variables, functions and options, and what is open for reading and
writing. An action changes the state; it either goes on or leaves the command around it, and in both
cases there is a state afterwards.
-/

namespace Weave.Shell

/-! ## What is open -/

/-- Something that is open for reading or writing. Several descriptors can share it. -/
inductive Channel where
  /-- Bytes that wait to be read. The pieces that were written stand last first. -/
  | pipe (pieces : List Text)
  /-- A file and the place in it where reading and writing goes on. -/
  | file (location : Location) (offset : Nat) (append : Bool)
deriving Repr, DecidableEq, Inhabited

namespace Channel

def fileBytes (disk : Disk) (location : Location) : ByteArray :=
  match disk.node? location with
  | some (.file bytes) => bytes
  | _ => ByteArray.empty

/-- The bytes that wait to be read. -/
def waiting (disk : Disk) : Channel → Text
  | .pipe pieces => pieces.reverse.flatten
  | .file location offset _ =>
    let bytes := fileBytes disk location
    Text.ofBytes (bytes.extract offset bytes.size)

/-- The channel when only the last of the waiting bytes are left. -/
def withRest (disk : Disk) (rest : Text) : Channel → Channel
  | .pipe _ => .pipe [rest]
  | .file location _ append =>
    .file location ((fileBytes disk location).size - rest.length) append

/-- The bytes of a file after some were put at a place, in front of which zeros fill a gap. -/
def overwritten (old : ByteArray) (offset : Nat) (new : ByteArray) : ByteArray :=
  let gap := ByteArray.mk (Array.replicate (offset - old.size) 0)
  old.extract 0 offset ++ gap ++ new ++ old.extract (offset + new.size) old.size

/-- The channel and the disk after bytes were written. -/
def written (disk : Disk) (s : Text) : Channel → Channel × Disk
  | .pipe pieces => (.pipe (s :: pieces), disk)
  | .file location offset append =>
    match disk.node? location with
    | some (.file old) =>
      let new := Text.toBytes s
      let offset := if append then old.size else offset
      (.file location (offset + new.size) append,
        disk.put location (.file (overwritten old offset new)))
    | _ => (.file location offset append, disk)

end Channel

/-! ## State -/

structure State where
  disk : Disk
  /-- The number of the process. -/
  process : Nat
  /-- The name of the script, which is the parameter 0. -/
  name : Text
  args : List Text
  /-- The line of the command that is running. -/
  line : Nat
  /-- What complaints name: the command of the shell that is running, or the file of a script that
  is run in its place. -/
  context : Text
  vars : Store Text Text
  /-- The variables that programs are given. -/
  exported : List Text
  /-- The variables that cannot be changed. -/
  fixed : List Text
  functions : Store Text Command
  aliases : Store Text Text
  /-- What is done when a signal arrives, by its name. -/
  traps : Store Text Text
  /-- The letters of the options that are set. -/
  options : List Char
  /-- The values that variables had before functions made them their own, for the functions that
  are running. -/
  saved : List (List (Text × Option Text))
  /-- The number of loops around the command, inside the function that is running. -/
  loops : Nat
  /-- The status of the last command. -/
  status : Nat
  /-- The status of the last script whose output was used in a word. -/
  outputStatus : Nat
  channels : Store Nat Channel
  /-- The number of the next channel. -/
  nextChannel : Nat
  descriptors : Store Nat Nat
  /-- The statuses of commands that ran in the background, by their process numbers. -/
  jobs : Store Nat Nat
  /-- The number of the argument with which the search for options goes on. -/
  optionIndex : Nat
  /-- The place inside the argument before, if the search goes on there. -/
  optionPlace : Nat
  /-- The names of signals that arrived and were not answered yet. -/
  pending : List Text
  /-- The permissions that new files are not given. -/
  mask : Nat
deriving Inhabited

/-- Why the command around an action is left. -/
inductive Leave where
  | exit
  | killed (signal : Nat)
  /-- The command goes on for ever. -/
  | endless
  /-- So many loops are left. -/
  | loops (count : Nat)
  /-- All but one of so many loops are left, and that goes into its next round. -/
  | round (count : Nat)
  | function
deriving Repr, DecidableEq, Inhabited

abbrev Act : Type → Type :=
  ExceptT Leave (StateM State)

namespace State

/-! ## Channels -/

def channel? (sh : State) (descriptor : Nat) : Option (Nat × Channel) := do
  let id ← sh.descriptors.get? descriptor
  return (id, ← sh.channels.get? id)

/-- The shell after bytes were written to a channel. -/
def putChannel (sh : State) (id : Nat) (s : Text) : State :=
  match sh.channels.get? id with
  | some channel =>
    if s.isEmpty then sh
    else
      let (channel, disk) := channel.written sh.disk s
      { sh with disk := disk, channels := sh.channels.insert id channel }
  | none => sh

/-- The shell after bytes were written to a descriptor, if that is open. -/
def put (sh : State) (descriptor : Nat) (s : Text) : State :=
  match sh.descriptors.get? descriptor with
  | some id => sh.putChannel id s
  | none => sh

/-- What can be read from a descriptor. -/
def waiting (sh : State) (descriptor : Nat) : Text :=
  match sh.channel? descriptor with
  | some (_, channel) => channel.waiting sh.disk
  | none => []

/-- The shell when only the last of the bytes are left that a descriptor has. -/
def withRest (sh : State) (descriptor : Nat) (rest : Text) : State :=
  match sh.channel? descriptor with
  | some (id, channel) =>
    { sh with channels := sh.channels.insert id (channel.withRest sh.disk rest) }
  | none => sh

/-- Whether a descriptor reads a file, in which one can go back. -/
def readsFile (sh : State) (descriptor : Nat) : Bool :=
  match sh.channel? descriptor with
  | some (_, .file ..) => true
  | _ => false

/-- The shell with a descriptor that has a channel of its own. -/
def openChannel (sh : State) (descriptor : Nat) (channel : Channel) : State :=
  { sh with
    channels := sh.channels.insert sh.nextChannel channel
    nextChannel := sh.nextChannel + 1
    descriptors := sh.descriptors.insert descriptor sh.nextChannel }

/-- The shell with the descriptors that it had before. Channels that were opened since and are not
used any more are closed. -/
def withDescriptors (sh before : State) : State :=
  { sh with
    descriptors := before.descriptors
    channels := sh.channels.eraseWhere fun id =>
      before.nextChannel ≤ id && before.descriptors.entries.all fun e => e.2 ≠ id }

/-! ## Variables -/

/-- The shell after a variable was set, which has to be allowed. -/
def withVar (sh : State) (name value : Text) : State :=
  { sh with
    vars := sh.vars.insert name value
    exported := if sh.options.contains 'a' && !sh.exported.contains name then
      sh.exported ++ [name] else sh.exported }

/-- The shell with the value that a variable had. -/
def withOldVar (sh : State) (name : Text) (value : Option Text) : State :=
  match value with
  | some s => { sh with vars := sh.vars.insert name s }
  | none => { sh with vars := sh.vars.erase name }

/-- The variables that a shell has by itself. -/
def ownVariables : Store Text Text :=
  [("IFS", " \t\n"), ("OPTIND", "1"), ("PPID", "4241"), ("PS1", "# "), ("PS2", "> "),
   ("PS4", "+ ")].foldl (fun vars (name, value) => vars.insert name.toList value.toList) .empty

/-- The characters that separate fields. -/
def separators (sh : State) : Text :=
  (sh.vars.get? "IFS".toList).getD [' ', '\t', '\n']

/-- The arguments as one text, joined by the first separator. -/
def joinedArgs (sh : State) : Text :=
  (sh.args.intersperse (sh.separators.take 1)).flatten

/-- The letters of the options, in their usual order. -/
def optionLetters (sh : State) : Text :=
  "ubaCEVvxsnmiIfe".toList.filter sh.options.contains

/-- The value of a parameter, if it is set. -/
def param? (sh : State) (name : Text) : Option Text :=
  match name with
  | ['#'] => some (Text.ofNat sh.args.length)
  | ['?'] => some (Text.ofNat sh.status)
  | ['$'] => some (Text.ofNat sh.process)
  | ['-'] => some sh.optionLetters
  | ['!'] => sh.jobs.keys.getLast?.map Text.ofNat
  | ['0'] => some sh.name
  | ['@'] => if sh.args.isEmpty then none else some (sh.args.intersperse [' ']).flatten
  | ['*'] => if sh.args.isEmpty then none else some sh.joinedArgs
  | name =>
    if Text.isDigits name then sh.args[Text.toNat name - 1]?
    else sh.vars.get? name

/-! ## Shells inside -/

/-- The shell after another shell that began as a copy of it: only what is written, what is left to
read, the disk and the status remain. -/
def afterChild (child parent : State) : State :=
  { parent with
    disk := { child.disk with workDir := parent.disk.workDir }
    status := child.status
    channels := child.channels
    nextChannel := child.nextChannel }

end State

/-! ## Actions -/

namespace Act

def status (n : Nat) : Act Unit :=
  modify fun sh => { sh with status := n }

def write (descriptor : Nat) (s : Text) : Act Unit :=
  modify (·.put descriptor s)

/-- Complains about something in a context, and goes on. -/
def complainIn (context message : Text) (status : Nat) : Act Unit :=
  modify fun sh =>
    let about := if context.isEmpty then message else context ++ ": ".toList ++ message
    let line := sh.name ++ ": ".toList ++ Text.ofNat sh.line ++ ": ".toList ++ about ++ ['\n']
    { sh.put 2 line with status := status }

/-- Complains about something, and goes on. -/
def complain (message : Text) (status : Nat) : Act Unit := do
  complainIn (← get).context message status

/-- Complains about something, and ends the shell. -/
def fail {α : Type} (message : Text) : Act α := do
  complain message 2
  throw .exit

/-- What an action comes to, without leaving anything. -/
def attempt {α : Type} (act : Act α) : Act (Except Leave α) :=
  ExceptT.lift (ExceptT.run act)

def setVar (name value : Text) : Act Unit := do
  let sh ← get
  if sh.fixed.contains name then fail (name ++ ": is read only".toList)
  set (sh.withVar name value)

end Act

end Weave.Shell

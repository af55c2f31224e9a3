import Weave.Config
import Weave.World

/-!
# Weave.Process — the toolchain as a program

A process toolchain writes the source text of a request to a temporary file, runs a program on it
and removes the file again. Which programs there are, and what they do to the disk, is given from
outside.
-/

namespace Weave

/-! ## Programs -/

inductive ExitStatus where
  | code (value : Nat)
  /-- By a signal. -/
  | killed
deriving Repr, DecidableEq, Inhabited

/-- What a program left when it ended. -/
structure Finished where
  stdout : ByteArray
  stderr : ByteArray
  status : ExitStatus
  disk : Disk
deriving Inhabited

/-- The programs of a system: what becomes of a program with arguments that is started in the
working directory of a disk. An error says why it cannot be started. -/
abbrev Programs : Type :=
  Text → List Text → Disk → Except IoError Finished

def ExitStatus.text : ExitStatus → Text
  | .code value => "status ".toList ++ Text.ofNat value
  | .killed => "no exit code".toList

namespace Process

/-! ## Temporary files -/

/-- The directory for temporary files where none is configured. -/
def systemTemp : Text :=
  "/tmp".toList

/-- The number of characters that make the name of a temporary file new. -/
def stampWidth : Nat := 6

/-- The characters that make the name of a temporary file new, for a number. -/
def stamp (number : Nat) : Text :=
  (List.range stampWidth).map fun i => Nat.digitChar (number / Nat.pow 10 (stampWidth - 1 - i) % 10)

/-- How many stamps there are. As many names are tried for a new file. -/
def stampCount : Nat :=
  Nat.pow 10 stampWidth

def tempName (extension : Text) (number : Nat) : Text :=
  "zmd-".toList ++ stamp number ++ '.' :: Text.trimStartWhere (· = '.') extension

/-- The path name that begins at the root and leads where a path name leads. -/
def absolute (disk : Disk) (path : Text) : Text :=
  PathName.join disk.workPath path

/-- Provides the directory for source files, if one is configured. -/
def prepareDir (disk : Disk) (dir : Option Text) : Except IoError Unit × Disk :=
  match dir with
  | none => (.ok (), disk)
  | some dir => disk.provideDir dir

/-- A path for a new file in a directory. A name that is taken is passed over; fuel bounds how
many are tried. -/
def freshPath (disk : Disk) (dir extension : Text) : Nat → Except IoError Text × Disk
  | 0 => (.error .alreadyExists, disk)
  | fuel + 1 =>
    let path := PathName.join dir (tempName extension disk.clock)
    if disk.pathExists path then freshPath disk.tick dir extension fuel
    else (.ok path, disk.tick)

/-- Writes a source text to a new file: its path, and the disk afterwards. -/
def writeSource (settings : ToolSettings) (root body : Text) (disk : Disk) :
    Except IoError Text × Disk :=
  let dir := settings.scratchDir.map (PathName.join root)
  match prepareDir disk dir with
  | (.error e, disk) => (.error e, disk)
  | (.ok (), disk) =>
    match freshPath disk (absolute disk (dir.getD systemTemp)) settings.extension stampCount with
    | (.error e, disk) => (.error e, disk)
    | (.ok path, disk) =>
      match disk.writeText path body with
      | .error e => (.error e, disk)
      | .ok disk => (.ok path, disk)

/-! ## Running -/

/-- The arguments before the source file. -/
def argumentsFor (settings : ToolSettings) : Mode → List Text
  | .run => settings.runArgs
  | .test => settings.testArgs

/-- The location of the directory in which programs are started. -/
def startDir (disk : Disk) (root : Text) : Except IoError Location := do
  let location ← disk.locate root
  disk.checkDir location
  return location

def start (programs : Programs) (root program : Text) (args : List Text) (disk : Disk) :
    Except IoError Finished := do
  if (program :: args).any (·.contains '\x00') then throw .invalidInput
  let location ← startDir disk root
  let finished ← programs program args { disk with workDir := location }
  return { finished with disk := { finished.disk with workDir := disk.workDir } }

/-- What a finished program means for its request. -/
def outcome (mode : Mode) (finished : Finished) : Except Failure ToolOutput :=
  let stderr := Text.decodeLossy finished.stderr
  if finished.status = .code 0 then .ok ⟨Text.decodeLossy finished.stdout, stderr⟩
  else .error (.toolchainFailure mode finished.status.text stderr)

/-- The disk without a temporary file. -/
def discard (disk : Disk) (path : Text) : Disk :=
  (disk.remove path).toOption.getD disk

def run (programs : Programs) (settings : ToolSettings) (root : Text) (request : Request)
    (disk : Disk) : Except Failure ToolOutput × Disk :=
  match writeSource settings root request.body disk with
  | (.error e, disk) => (.error (.io e), disk)
  | (.ok path, disk) =>
    let args := argumentsFor settings request.mode ++ [path]
    match start programs root settings.program args disk with
    | .error e => (.error (.toolchainSpawn settings.program e.message), discard disk path)
    | .ok finished => (outcome request.mode finished, discard finished.disk path)

end Process

def Toolchain.process {τ : Type} (programs : Programs) (settings : ToolSettings) (root : Text) :
    Toolchain (World τ) where
  execute request world :=
    let (output, disk) := Process.run programs settings root request world.disk
    (output, { world with disk := disk })

end Weave

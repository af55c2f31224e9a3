import Weave.Disk.Tree
import Weave.Text.Utf8

/-!
# Weave.Disk.File — reading, writing and removing

The operations on files and directories. Each either succeeds and says what the disk is afterwards,
or fails with a cause and leaves the disk as it was. Only `createDirs` can fail halfway; it says
what the disk is then.
-/

namespace Weave.Disk

/-! ## Reading -/

def read (disk : Disk) (path : Text) : Except IoError ByteArray := do
  match ← disk.stat path with
  | .file bytes => return bytes
  | .sink => return ByteArray.empty
  | .dir => .error .isADirectory

/-- The text of a file, which has to be UTF-8. -/
def readText (disk : Disk) (path : Text) : Except IoError Text := do
  match Text.decode? (← disk.read path) with
  | some s => return s
  | none => .error .invalidData

/-! ## Places for new nodes -/

/-- The place that a path names for a new node: its location, or nothing if the path ends in dots
and so can only name a directory that exists. The directory around it has to exist. -/
def place (disk : Disk) (path : Text) : Except IoError (Option Location) := do
  checkName path
  let steps := ((PathName.segments path).filter (· ≠ [])).map Move.ofSegment
  let parent ← disk.walk (disk.origin path) steps.dropLast
  disk.checkDir parent
  match steps.getLast? with
  | some (.down name) => return some (name :: parent)
  | _ => return none

/-- The place for a new file. A slash at the end of the path asks for a directory. -/
def filePlace (disk : Disk) (path : Text) : Except IoError Location := do
  match ← disk.place path with
  | some location => if path.getLast? = some '/' then .error .isADirectory else return location
  | none => .error .isADirectory

/-! ## Changing -/

/-- Puts bytes into a file, which is created if there is none. -/
def write (disk : Disk) (path : Text) (bytes : ByteArray) : Except IoError Disk := do
  let location ← disk.filePlace path
  match disk.node? location with
  | some .dir => .error .isADirectory
  | some .sink => return disk
  | _ => return disk.put location (.file bytes)

/-- Puts a text into a file, which is created if there is none. -/
def writeText (disk : Disk) (path : Text) (s : Text) : Except IoError Disk :=
  disk.write path (Text.encode s)

def createDir (disk : Disk) (path : Text) : Except IoError Disk := do
  match ← disk.place path with
  | some location =>
    if (disk.node? location).isSome then .error .alreadyExists
    else return disk.put location .dir
  | none => .error .alreadyExists

/-- Creates a directory, which may exist already. -/
def ensureDir (disk : Disk) (path : Text) : Except IoError Disk :=
  match disk.createDir path with
  | .ok disk => .ok disk
  | .error e => if disk.isDir path then .ok disk else .error e

/-- What an operation that changes nothing when it fails came to, with the disk afterwards. -/
def settled (disk : Disk) (result : Except IoError Disk) : Except IoError Unit × Disk :=
  match result with
  | .ok changed => (.ok (), changed)
  | .error e => (.error e, disk)

/-- Creates the last of a list of directories, each of which lies in the one before it. The list
begins with the innermost. Missing directories around it are created first, and stay if one further
in cannot be created. -/
def createChain (disk : Disk) : List Text → Except IoError Unit × Disk
  | [] => (.error .other, disk)
  | path :: around =>
    if path.isEmpty then (.ok (), disk)
    else
      match disk.createDir path with
      | .ok changed => (.ok (), changed)
      | .error .notFound =>
        match createChain disk around with
        | (.ok (), changed) => changed.settled (changed.ensureDir path)
        | failed => failed
      | .error e => (if disk.isDir path then .ok () else .error e, disk)

/-- Creates a directory together with the missing directories around it. -/
def createDirs (disk : Disk) (path : Text) : Except IoError Unit × Disk :=
  disk.createChain (PathName.ancestors path)

/-- Creates a directory together with the missing directories around it, unless the path leads to
something. -/
def provideDir (disk : Disk) (path : Text) : Except IoError Unit × Disk :=
  if disk.pathExists path then (.ok (), disk) else disk.createDirs path

def remove (disk : Disk) (path : Text) : Except IoError Disk := do
  let location ← disk.locate path
  match disk.node? location with
  | some .dir => .error .isADirectory
  | some _ => return disk.drop location
  | none => .error .notFound

/-- Moves a file to another path, where it takes the place of any file. -/
def rename (disk : Disk) (source target : Text) : Except IoError Disk := do
  let old ← disk.locate source
  let new ← disk.filePlace target
  match disk.node? old, disk.node? new with
  | none, _ => .error .notFound
  | some .dir, _ => .error .isADirectory
  | _, some .dir => .error .isADirectory
  | some node, _ => return (disk.drop old).put new node

/-! ## Clock -/

/-- The disk after a number was given out. -/
def tick (disk : Disk) : Disk :=
  { disk with clock := disk.clock + 1 }

/-! ## Whole trees -/

/-- A location as a path name below another one, if it lies there. -/
def nameBelow? (base location : Location) : Option Text :=
  if base.length < location.length && base.isSuffixOf location then
    some (PathName.ofSegments (location.take (location.length - base.length)).reverse)
  else none

/-- The nodes below a location with their path names from there. -/
def listBelow (disk : Disk) (base : Location) : List (Text × Node) :=
  disk.nodes.entries.filterMap fun (location, node) =>
    (nameBelow? base location).map (·, node)

/-- The disk with directories at all locations that lead to a location. What is there already
stays. -/
def withParents (disk : Disk) : Location → Disk
  | [] => disk
  | name :: around =>
    let disk := withParents disk around
    if (disk.node? (name :: around)).isSome then disk else disk.put (name :: around) .dir

/-- The disk with a node at a location and directories around it. -/
def plant (disk : Disk) (location : Location) (node : Node) : Disk :=
  (disk.withParents location.tail).put location node

/-- Where a path leads if nothing is asked of what stands on the way. -/
def locationOf (disk : Disk) (path : Text) : Location :=
  (moves path).foldl Move.apply (disk.origin path)

/-- The disk with a node at the end of a path and directories around it. -/
def plantAt (disk : Disk) (path : Text) (node : Node) : Disk :=
  disk.plant (disk.locationOf path) node

/-- The disk without whatever stands at the end of a path or below it. -/
def dropTree (disk : Disk) (path : Text) : Disk :=
  disk.dropBelow (disk.locationOf path)

/-- An empty disk: the usual directories and devices, and an empty working directory. -/
def blank (workDir : Location) : Disk :=
  let disk : Disk := ⟨.empty, workDir, 1, 0⟩
  let usual := ["bin", "etc", "home", "lib", "opt", "proc", "root", "sbin", "sys", "tmp", "usr",
    "var"]
  let disk := usual.foldl (fun disk name => disk.withParents [name.toList]) disk
  let disk := disk.plant ["null".toList, "dev".toList] .sink
  disk.withParents workDir

end Weave.Disk

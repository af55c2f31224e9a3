import Weave.IoError
import Weave.PathName
import Weave.Store

/-!
# Weave.Disk.Tree — directories and files

A disk is a tree of directories and files together with a working directory. A path is walked
step by step from the root or from the working directory: each step needs a directory to start
from, so that `file/.` and `missing/..` lead nowhere.
-/

namespace Weave

/-- What stands at a location. -/
inductive Node where
  | dir
  | file (bytes : ByteArray)
  /-- A device that is empty when read and forgets what is written. -/
  | sink
deriving Inhabited

/-- Two files are the same if their bytes are. -/
instance : DecidableEq Node
  | .dir, .dir | .sink, .sink => isTrue rfl
  | .file bytes, .file bytes' =>
    decidable_of_iff (bytes.data = bytes'.data) (by rw [Node.file.injEq, ByteArray.ext_iff])
  | .dir, .file _ | .dir, .sink | .file _, .dir | .file _, .sink | .sink, .dir | .sink, .file _ =>
    isFalse nofun

/-- A location in a tree: the names that lead to it from the root, the last one first. -/
abbrev Location : Type :=
  List Text

/-- What makes the name of a temporary file new: which process writes it, and when. -/
structure Stamp where
  process : Nat
  time : Nat
deriving Repr, DecidableEq, Inhabited

/-- A tree of directories and files. -/
structure Disk where
  nodes : Store Location Node
  /-- The directory where relative paths begin. -/
  workDir : Location
  /-- The number of the process that works with the tree. -/
  process : Nat
  /-- A number that is never given out twice, for the names of temporary files. -/
  clock : Nat
deriving Inhabited

namespace Disk

def stamp (disk : Disk) : Stamp :=
  ⟨disk.process, disk.clock⟩

/-! ## Nodes -/

/-- What stands at a location. The root is always a directory. -/
def node? (disk : Disk) (location : Location) : Option Node :=
  if location = [] then some .dir else disk.nodes.get? location

def put (disk : Disk) (location : Location) (node : Node) : Disk :=
  { disk with nodes := disk.nodes.insert location node }

def drop (disk : Disk) (location : Location) : Disk :=
  { disk with nodes := disk.nodes.erase location }

/-- The disk without the node at a location and all nodes below it. -/
def dropBelow (disk : Disk) (location : Location) : Disk :=
  { disk with nodes := disk.nodes.eraseWhere fun l => location.isSuffixOf l }

theorem node?_put (disk : Disk) {location : Location} (l : Location) (node : Node)
    (h : location ≠ []) :
    (disk.put location node).node? l = if l = location then some node else disk.node? l := by
  unfold node? put
  by_cases hl : l = []
  · subst hl
    simp [Ne.symm h]
  · simp [hl, Store.get?_insert]

theorem node?_drop (disk : Disk) {location : Location} (l : Location) (h : location ≠ []) :
    (disk.drop location).node? l = if l = location then none else disk.node? l := by
  unfold node? drop
  by_cases hl : l = []
  · subst hl
    simp [Ne.symm h]
  · simp [hl, Store.get?_erase]

/-! ## Walking -/

inductive Move where
  | here
  | up
  | down (name : Text)
deriving Repr, DecidableEq, Inhabited

def Move.ofSegment (segment : Text) : Move :=
  if segment = ['.'] then .here
  else if segment = ['.', '.'] then .up
  else .down segment

/-- Where a step leads. Up from the root is the root. -/
def Move.apply (location : Location) : Move → Location
  | .here => location
  | .up => location.tail
  | .down name => name :: location

/-- The steps of a path. A slash at the end asks for a directory, as a dot would. -/
def moves (path : Text) : List Move :=
  let steps := ((PathName.segments path).filter (· ≠ [])).map .ofSegment
  if path.getLast? = some '/' then steps ++ [.here] else steps

/-- The path name of the working directory from the root. -/
def workPath (disk : Disk) : Text :=
  '/' :: PathName.ofSegments disk.workDir.reverse

/-- Where a path begins. -/
def origin (disk : Disk) (path : Text) : Location :=
  if PathName.isAbsolute path then [] else disk.workDir

/-- Whether steps can be taken from a location. -/
def checkDir (disk : Disk) (location : Location) : Except IoError Unit :=
  match disk.node? location with
  | some .dir => .ok ()
  | some _ => .error .notADirectory
  | none => .error .notFound

/-- Where a walk leads. Its end need not exist. -/
def walk (disk : Disk) (location : Location) : List Move → Except IoError Location
  | [] => .ok location
  | m :: ms =>
    match disk.checkDir location with
    | .ok () => walk disk (m.apply location) ms
    | .error e => .error e

/-- Path names that can be walked are not empty and hold no NUL. -/
def checkName (path : Text) : Except IoError Unit :=
  if path.contains '\x00' then .error .invalidInput
  else if path.isEmpty then .error .notFound
  else .ok ()

/-- Where a path leads. Its end need not exist. -/
def locate (disk : Disk) (path : Text) : Except IoError Location := do
  checkName path
  disk.walk (disk.origin path) (moves path)

/-- What stands at the end of a path. -/
def stat (disk : Disk) (path : Text) : Except IoError Node := do
  let location ← disk.locate path
  match disk.node? location with
  | some node => return node
  | none => .error .notFound

def pathExists (disk : Disk) (path : Text) : Bool :=
  (disk.stat path).isOk

def isDir (disk : Disk) (path : Text) : Bool :=
  match disk.stat path with
  | .ok .dir => true
  | _ => false

def isFile (disk : Disk) (path : Text) : Bool :=
  match disk.stat path with
  | .ok (.file _) => true
  | _ => false

end Disk

end Weave

import Weave.Disk.File
import Weave.Text.Bytes

/-!
# Weave.Shell.Files — files for programs

Programs know files by names that are bytes and fill them with bytes. Here are the operations of a
disk for such names and contents.
-/

namespace Weave.Shell

def readFile (disk : Disk) (path : Text) : Except IoError Text :=
  (disk.read (Text.narrow path)).map Text.ofBytes

def writeFile (disk : Disk) (path content : Text) : Except IoError Disk :=
  disk.write (Text.narrow path) (Text.toBytes content)

def statFile (disk : Disk) (path : Text) : Except IoError Node :=
  disk.stat (Text.narrow path)

def fileExists (disk : Disk) (path : Text) : Bool :=
  disk.pathExists (Text.narrow path)

def isRegular (disk : Disk) (path : Text) : Bool :=
  disk.isFile (Text.narrow path)

def isDirectory (disk : Disk) (path : Text) : Bool :=
  disk.isDir (Text.narrow path)

/-- Where a path leads if it leads to anything. -/
def locationOf (disk : Disk) (path : Text) : Location :=
  disk.locationOf (Text.narrow path)

def workingPath (disk : Disk) : Text :=
  Text.widen disk.workPath

/-- Whether one text comes before another, or is the same. -/
def notAfter (s t : Text) : Bool :=
  !decide (t < s)

/-- The names in a directory, sorted. Names that begin with a dot are left out unless all are asked
for. -/
def namesIn (disk : Disk) (location : Location) (all : Bool) : List Text :=
  let names := disk.nodes.keys.filterMap fun l =>
    match l with
    | name :: around => if around = location then some (Text.widen name) else none
    | [] => none
  (names.filter fun n => all || n.head? ≠ some '.').mergeSort notAfter

end Weave.Shell

import Weave.CommandLine.Command
import Weave.Shell.Program

/-!
# Weave.Main — the program

The files that a command line can reach are read into a disk, the command does its work on it, and
what it changed is written back.
-/

namespace Weave

open CommandLine

/-! ## Reading -/

/-- Adds a file, or a directory with all that lies in it. -/
partial def loadEntry (around : Location) (disk : Disk) (entry : IO.FS.DirEntry) : IO Disk := do
  let location := entry.fileName.toList :: around
  match (← entry.path.metadata).type with
  | .dir => (← entry.path.readDir).foldlM (loadEntry location) (disk.plant location .dir)
  | .file => return disk.plant location (.file (← IO.FS.readBinFile entry.path))
  | _ => return disk

/-- Adds the file at a path, or the directory with all that lies in it, if there is one. -/
def loadPath (disk : Disk) (path : Text) : IO Disk := do
  try
    let target ← IO.FS.realPath (String.ofList path)
    let location := disk.locationOf path
    if ← target.isDir then
      (← target.readDir).foldlM (loadEntry location) (disk.withParents location)
    else return disk.plant location (.file (← IO.FS.readBinFile target))
  catch _ => return disk

/-- Adds the directory that a path lies in, if there is one. -/
def loadAround (disk : Disk) (path : Text) : IO Disk := do
  let around := (PathName.parent? path).getD []
  try
    if ← (← IO.FS.realPath (String.ofList around)).isDir then
      return disk.withParents (disk.locationOf around)
    else return disk
  catch _ => return disk

def workDirOnly : IO Disk := do
  let path := (← IO.currentDir).toString.toList
  return .blank ((PathName.segments path).filter (· ≠ [])).reverse

def planPaths (plan : Plan) : List Text :=
  plan.root :: (plan.job.input :: plan.job.output.toList).map (PathName.join plan.root)

/-- The working directory and the paths of a plan with all that lies there. -/
def loadPlan (plan : Plan) : IO Disk := do
  let disk ← workDirOnly
  (disk.workPath :: planPaths plan).foldlM
    (fun disk path => do loadPath (← loadAround disk path) path) disk

/-! ## Writing -/

def pathOf (location : Location) : String :=
  String.ofList ('/' :: PathName.ofSegments location.reverse)

def sameNode : Node → Node → Bool
  | .dir, .dir => true
  | .file a, .file b => a == b
  | .sink, .sink => true
  | _, _ => false

def hasNode (disk : Disk) (entry : Location × Node) : Bool :=
  (disk.node? entry.1).any (sameNode entry.2)

/-- The nodes of a disk that another one lacks, outer ones first. -/
def newNodes (disk other : Disk) : List (Location × Node) :=
  (disk.nodes.entries.filter fun e => !hasNode other e).mergeSort
    fun a b => a.1.length ≤ b.1.length

/-- Writes what a command changed. -/
def save (before after : Disk) : IO Unit := do
  for (location, node) in (newNodes before after).reverse do
    if (after.node? location).isNone then
      match node with
      | .dir => IO.FS.removeDir (pathOf location)
      | .file _ => IO.FS.removeFile (pathOf location)
      | .sink => pure ()
  for (location, node) in newNodes after before do
    match node with
    | .dir => IO.FS.createDirAll (pathOf location)
    | .file bytes => IO.FS.writeBinFile (pathOf location) bytes
    | .sink => pure ()

/-! ## Running -/

def say (outcome : Outcome) : IO Unit := do
  IO.print (String.ofList outcome.stdout)
  (← IO.getStdout).flush
  IO.eprint (String.ofList outcome.stderr)

/-- Does the job of a plan again whenever a file changes. -/
partial def keepWatching (plan : Plan) (known : Disk) : IO Unit := do
  IO.sleep 200
  let disk ← loadPlan plan
  if (newNodes known disk).isEmpty && (newNodes disk known).isEmpty then keepWatching plan known
  else
    IO.println "\nFile change detected, rendering..."
    let (outcome, after) := plan.job.once Shell.programs plan.manner plan.root disk
    say outcome
    save disk after
    keepWatching plan after

def runProgram (colours : Bool) (arguments : List Text) : IO UInt32 := do
  match Plan.read colours arguments (← workDirOnly) with
  | .error outcome =>
    say outcome
    return UInt32.ofNat outcome.ending.status
  | .ok plan =>
    let disk ← loadPlan plan
    let (outcome, after) := plan.job.run Shell.programs plan.manner plan.root disk
    say outcome
    save disk after
    if outcome.ending = .watching then keepWatching plan after
    return UInt32.ofNat outcome.ending.status

end Weave

/-- Colours are used unless the environment has a variable `NO_COLOR`. -/
def main (arguments : List String) : IO UInt32 := do
  Weave.runProgram (← IO.getEnv "NO_COLOR").isNone (arguments.map String.toList)

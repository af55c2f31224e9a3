import Weave.Disk.File
import Weave.Session

/-!
# Weave.World — where reports are kept

The world of a session: a disk, a memory for reports, and whatever the toolchain has as its own
state. There are two caches besides the one that keeps nothing: one in memory, and one with a file
for every report in a directory on the disk.
-/

namespace Weave

/-- The world of a session, with a state of type `τ` for the toolchain. -/
structure World (τ : Type) where
  disk : Disk
  memory : Store CacheKey Text
  tool : τ
deriving Inhabited

namespace World

/-- A world in which nothing is remembered. -/
def ofDisk {τ : Type} (disk : Disk) (tool : τ) : World τ :=
  ⟨disk, .empty, tool⟩

end World

/-! ## The cache in memory -/

def Cache.memory {τ : Type} : Cache (World τ) where
  load key world := .ok (world.memory.get? key)
  store key report world :=
    (.ok (), { world with memory := world.memory.insert key report })

/-! ## The cache on disk -/

namespace DiskCache

/-- The file for a key in a directory. -/
def entryFile (dir : Text) (key : CacheKey) : Text :=
  PathName.join dir (key.text ++ ".txt".toList)

/-- The file that holds a report while it is written. The stamp makes its name new. -/
def tempPath (dir : Text) (key : CacheKey) (stamp : Stamp) : Text :=
  PathName.join dir (key.text ++ ".txt.tmp-".toList ++ Text.ofNat stamp.process
    ++ '-' :: Text.ofNat stamp.time)

/-- The report under a key. A file that is missing is no report; whatever else cannot be read is
an error. -/
def load (dir : Text) (key : CacheKey) (disk : Disk) : Except IoError (Option Text) :=
  match disk.readText (entryFile dir key) with
  | .ok report => .ok (some report)
  | .error .notFound => .ok none
  | .error e => .error e

/-- Writes a report to a file of its own, which then takes the place of the entry. If that fails the
file is removed. -/
def writeEntry (dir : Text) (key : CacheKey) (report : Text) (disk : Disk) :
    Except IoError Unit × Disk :=
  let temp := tempPath dir key disk.stamp
  match disk.tick.writeText temp report with
  | .error e => (.error e, disk.tick)
  | .ok written =>
    match written.rename temp (entryFile dir key) with
    | .ok renamed => (.ok (), renamed)
    | .error e => (.error e, (written.remove temp).toOption.getD written)

def store (dir : Text) (key : CacheKey) (report : Text) (disk : Disk) :
    Except IoError Unit × Disk :=
  match disk.provideDir dir with
  | (.error e, disk) => (.error e, disk)
  | (.ok (), disk) => writeEntry dir key report disk

end DiskCache

/-- The cache that keeps reports in a directory. -/
def Cache.disk {τ : Type} (dir : Text) : Cache (World τ) where
  load key world :=
    match DiskCache.load dir key world.disk with
    | .ok report => .ok report
    | .error e => .error (.io e)
  store key report world :=
    match DiskCache.store dir key report world.disk with
    | (.ok (), disk) => (.ok (), { world with disk := disk })
    | (.error e, disk) => (.error (.io e), { world with disk := disk })

end Weave

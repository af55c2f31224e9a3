import Weave.Shell.Tool.Basic

/-!
# Weave.Shell.Tool.Directory — what directories hold

Lists, creates, copies, moves and removes files and directories.
-/

namespace Weave.Shell.Directory

/-! ## Paths -/

/-- The path of something in a directory. -/
def inside (dir name : Text) : Text :=
  if dir.getLast? = some '/' then dir ++ name else dir ++ '/' :: name

/-- A path without slashes at its end. -/
def bare (path : Text) : Text :=
  let s := Text.trimEndWhere (· = '/') path
  if s.isEmpty then path.take 1 else s

def lastName (path : Text) : Text :=
  let s := bare path
  let name := (s.reverse.takeWhile (· ≠ '/')).reverse
  if name.isEmpty then s else name

/-- The paths that a path leads through, itself last. -/
def steps (path : Text) : List Text :=
  let names := (path.splitOnP (· = '/')).zipIdx 1
  let ends := names.filter fun (name, _) => !name.isEmpty
  ends.map fun (_, n) => (((names.take n).map Prod.fst).intersperse ['/']).flatten

/-! ## Listing -/

structure Listing where
  /-- Names that begin with a dot are listed. -/
  hidden : Bool
  /-- The directory itself and the one around it are listed. -/
  dots : Bool
  reversed : Bool
  /-- Directories are marked with a slash. -/
  marked : Bool
  deep : Bool
deriving Repr, DecidableEq, Inhabited

namespace Listing

def order (listing : Listing) (names : List Text) : List Text :=
  let sorted := names.mergeSort notAfter
  if listing.reversed then sorted.reverse else sorted

/-- What is printed for names, which stand for paths. -/
def listed (listing : Listing) (disk : Disk) (names : List (Text × Text)) : Text :=
  unlines (names.map fun (name, path) =>
    if listing.marked && isDirectory disk path then name ++ ['/'] else name)

def contents (listing : Listing) (disk : Disk) (dir : Text) : Text :=
  let dots := if listing.dots then [['.'], ['.', '.']] else []
  let names := dots ++ namesIn disk (locationOf disk dir) listing.hidden
  listing.listed disk ((listing.order names).map fun name => (name, inside dir name))

/-- The directories that are listed for some directories: they and, if that is asked for, those in
them. The number of nodes is fuel enough. -/
def visited (listing : Listing) (disk : Disk) : Nat → List Text → List Text
  | 0, _ => []
  | _ + 1, [] => []
  | fuel + 1, dir :: rest =>
    let names := listing.order (namesIn disk (locationOf disk dir) listing.hidden)
    let inner := (names.map (inside dir)).filter (isDirectory disk)
    dir :: visited listing disk fuel (if listing.deep then inner ++ rest else rest)

end Listing

def listSpec : OptionSpec where
  flags := "aA1dRrFpUq"
  valued := ""
  long := [("all", 'a'), ("almost-all", 'A'), ("directory", 'd'), ("recursive", 'R'),
    ("reverse", 'r'), ("classify", 'F')]

/-- Lists directories and names files. -/
def ls : Tool :=
  listSpec.tool "ls" 2 fun given => do
    let disk := (← get).disk
    let listing : Listing :=
      { hidden := given.has 'a' || given.has 'A'
        dots := given.has 'a'
        reversed := given.has 'r'
        marked := given.has 'F' || given.has 'p'
        deep := given.has 'R' }
    let paths := if given.operands.isEmpty then [['.']] else given.operands
    paths.forM fun path =>
      match statFile disk path with
      | .ok _ => return
      | .error e => Work.cannot "ls".toList "access".toList path e.reason 2
    let there := listing.order (paths.filter (fileExists disk))
    let (dirs, files) := there.partition fun path => !given.has 'd' && isDirectory disk path
    Work.print (listing.listed disk (files.map fun path => (path, path)))
    let dirs := listing.visited disk (disk.nodes.keys.length + dirs.length + 1) dirs
    let headed := listing.deep || 1 < paths.length
    dirs.zipIdx.forM fun (dir, i) => do
      if 0 < i || !files.isEmpty then Work.print ['\n']
      if headed then Work.print (Text.endLine (dir ++ [':']))
      Work.print (listing.contents disk dir)

/-! ## Creating -/

def mkdirSpec : OptionSpec where
  flags := "pv"
  valued := "m"
  long := [("parents", 'p'), ("verbose", 'v'), ("mode", 'm')]

/-- Creates one directory. Says whether it is there afterwards. -/
def createDir (given : Given) (path : Text) : Work Bool := do
  match ← Work.change fun disk => disk.createDir (Text.narrow path) with
  | .ok () =>
    if given.has 'v' then
      Work.print (Text.endLine ("mkdir: created directory ".toList ++ quoted path))
    return true
  | .error e =>
    Work.cannot "mkdir".toList "create directory".toList path e.reason 1
    return false

/-- Creates the directories that a path leads through. -/
def createSteps (given : Given) : List Text → Work Unit
  | [] => return
  | path :: rest => do
    let disk := (← get).disk
    if isDirectory disk path then createSteps given rest
    else if fileExists disk path && !rest.isEmpty then
      Work.cannot "mkdir".toList "create directory".toList path IoError.notADirectory.reason 1
    else if ← createDir given path then createSteps given rest

def mkdir : Tool :=
  mkdirSpec.tool "mkdir" 1 fun given => do
    if given.operands.isEmpty then Work.misused "mkdir".toList "missing operand".toList 1
    given.operands.forM fun path => do
      if given.has 'p' then createSteps given (steps path)
      else
        let _ ← createDir given path

def touchSpec : OptionSpec where
  flags := "acm"
  valued := "drt"
  long := [("no-create", 'c'), ("date", 'd'), ("reference", 'r')]

/-- Creates files that do not exist. -/
def touch : Tool :=
  touchSpec.tool "touch" 1 fun given => do
    if given.operands.isEmpty then Work.misused "touch".toList "missing file operand".toList 1
    given.operands.forM fun path => do
      let disk := (← get).disk
      if !given.has 'c' && !fileExists disk path then
        match ← Work.change fun disk => writeFile disk path [] with
        | .ok () => return
        | .error e => Work.cannot "touch".toList "touch".toList path e.reason 1

/-! ## Removing -/

def rmdirSpec : OptionSpec where
  flags := "pvi"
  valued := ""
  long := [("parents", 'p'), ("verbose", 'v'), ("ignore-fail-on-non-empty", 'i')]

/-- Why a directory that holds something is not removed. -/
def notEmpty : Text :=
  "Directory not empty".toList

/-- The disk without an empty directory. An error is a reason. -/
def dropDir (disk : Disk) (path : Text) : Except Text Disk := do
  let location ← (disk.locate (Text.narrow path)).mapError (·.reason)
  (disk.checkDir location).mapError (·.reason)
  if (namesIn disk location true).isEmpty then return disk.drop location
  throw notEmpty

/-- Removes empty directories. -/
def rmdir : Tool :=
  rmdirSpec.tool "rmdir" 1 fun given => do
    if given.operands.isEmpty then Work.misused "rmdir".toList "missing operand".toList 1
    given.operands.forM fun path => do
      let around := if given.has 'p' then (steps (bare path)).reverse else [path]
      around.forM fun path => do
        if given.has 'v' then
          Work.print (Text.endLine ("rmdir: removing directory, ".toList ++ quoted path))
        match dropDir (← get).disk path with
        | .ok disk => modify fun b => { b with disk := disk }
        | .error reason =>
          if !(given.has 'i' && reason = notEmpty) then
            Work.complain "rmdir".toList
              ("failed to remove ".toList ++ quoted path ++ ": ".toList ++ reason) 1

def rmSpec : OptionSpec where
  flags := "rRfdvi"
  valued := ""
  long := [("recursive", 'r'), ("force", 'f'), ("dir", 'd'), ("verbose", 'v')]

/-- The paths in a directory and the directory after them. The number of nodes is fuel enough. -/
def insideOut (disk : Disk) : Nat → Text → List Text
  | 0, path => [path]
  | fuel + 1, path =>
    if isDirectory disk path then
      (namesIn disk (locationOf disk path) true).flatMap
        (fun name => insideOut disk fuel (inside path name)) ++ [path]
    else [path]

/-- Removes one path with all that lies below it. -/
def removeTree (given : Given) (path : Text) : Work Unit := do
  let disk := (← get).disk
  if given.has 'v' then
    Work.print (unlines ((insideOut disk disk.nodes.keys.length path).map fun p =>
      if isDirectory disk p then "removed directory ".toList ++ quoted p
      else "removed ".toList ++ quoted p))
  modify fun b => { b with disk := b.disk.dropTree (Text.narrow path) }

def removePath (given : Given) (path : Text) : Work Unit := do
  let disk := (← get).disk
  let deep := given.has 'r' || given.has 'R'
  let cannot := fun reason => Work.cannot "rm".toList "remove".toList path reason 1
  match statFile disk path with
  | .error e =>
    if !(given.has 'f' && (e = .notFound || e = .notADirectory)) then cannot e.reason
  | .ok .dir =>
    if !deep && !given.has 'd' then cannot IoError.isADirectory.reason
    else if lastName path = ['.'] || lastName path = ['.', '.'] then
      Work.complain "rm".toList
        ("refusing to remove \x27.\x27 or \x27..\x27 directory: skipping ".toList ++ quoted path) 1
    else if locationOf disk path = [] then
      Work.complain "rm".toList "it is dangerous to operate recursively on \x27/\x27".toList 1
      Work.complain "rm".toList "use --no-preserve-root to override this failsafe".toList 1
    else if !deep && !(namesIn disk (locationOf disk path) true).isEmpty then cannot notEmpty
    else removeTree given path
  | .ok _ =>
    match ← Work.change fun disk => disk.remove (Text.narrow path) with
    | .ok () => if given.has 'v' then Work.print (Text.endLine ("removed ".toList ++ quoted path))
    | .error e => cannot e.reason

/-- Removes files, and directories if that is asked for. -/
def rm : Tool :=
  rmSpec.tool "rm" 1 fun given => do
    if given.operands.isEmpty && !given.has 'f' then
      Work.misused "rm".toList "missing operand".toList 1
    given.operands.forM (removePath given)

/-! ## Copying and moving -/

/-- The disk with a copy of the tree at one location at another one. -/
def graft (disk : Disk) (source target : Location) : Disk :=
  (disk.nodes.entries.filter fun (l, _) => source.isSuffixOf l).foldl
    (fun disk (l, node) => disk.put (l.take (l.length - source.length) ++ target) node) disk

/-- Why one path cannot take the place of another, if it cannot. -/
def clash? (disk : Disk) (source target : Text) : Option Text :=
  if !fileExists disk target then none
  else
    match isDirectory disk source, isDirectory disk target with
    | true, false => some ("cannot overwrite non-directory ".toList ++ quoted target
        ++ " with directory ".toList ++ quoted source)
    | false, true => some ("cannot overwrite directory ".toList ++ quoted target
        ++ " with non-directory".toList)
    | _, _ => none

/-- Copies one path. An error is a complaint. -/
def copyOne (given : Given) (disk : Disk) (source target : Text) : Except Text Disk := do
  let deep := given.has 'r' || given.has 'R' || given.has 'a'
  let old := locationOf disk source
  let new := locationOf disk target
  match statFile disk source with
  | .error e => throw ("cannot stat ".toList ++ quoted source ++ ": ".toList ++ e.reason)
  | .ok node =>
    let isDir := isDirectory disk source
    if isDir && !deep then throw ("-r not specified; omitting directory ".toList ++ quoted source)
    (clash? disk source target).forM throw
    -- the copy would be copied again without an end
    if isDir && old.isSuffixOf new then
      throw ("cannot copy a directory, ".toList ++ quoted source ++ ", into itself, ".toList
        ++ quoted target)
    if old = new then
      throw (quoted source ++ " and ".toList ++ quoted target ++ " are the same file".toList)
    if given.has 'n' && fileExists disk target then return disk
    let failed := fun (e : IoError) => "cannot create ".toList
      ++ (if isDir then "directory " else "regular file ").toList ++ quoted target ++ ": ".toList
      ++ e.reason
    let place ← (disk.place (Text.narrow target)).mapError failed
    if !isDir && target.getLast? = some '/' then throw (failed .notADirectory)
    if isDir then return graft disk old (place.getD new)
    else
      match node, place with
      | .file bytes, some place => return disk.put place (.file bytes)
      | _, _ => return disk

/-- Moves one path. An error is a complaint. -/
def moveOne (given : Given) (disk : Disk) (source target : Text) : Except Text Disk := do
  let old := locationOf disk source
  let new := locationOf disk target
  match statFile disk source with
  | .error e => throw ("cannot stat ".toList ++ quoted source ++ ": ".toList ++ e.reason)
  | .ok _ =>
    if old = new then
      throw (quoted source ++ " and ".toList ++ quoted target ++ " are the same file".toList)
    let isDir := isDirectory disk source
    if isDir && old.isSuffixOf new then
      throw ("cannot move ".toList ++ quoted source ++ " to a subdirectory of itself, ".toList
        ++ quoted target)
    if given.has 'n' && fileExists disk target then return disk
    (clash? disk source target).forM throw
    let failed := fun reason => "cannot move ".toList ++ quoted source ++ " to ".toList
      ++ quoted target ++ ": ".toList ++ reason
    if isDirectory disk target && !(namesIn disk new true).isEmpty then throw (failed notEmpty)
    let place ← (disk.place (Text.narrow target)).mapError fun e => failed e.reason
    if !isDir && target.getLast? = some '/' then throw (failed IoError.notADirectory.reason)
    -- an empty directory in the place of the target is replaced
    return (graft (disk.dropBelow new) old (place.getD new)).dropBelow old

def transferSpec : OptionSpec where
  flags := "rRafinpuvTd"
  valued := "tS"
  long := [("recursive", 'r'), ("archive", 'a'), ("force", 'f'), ("interactive", 'i'),
    ("no-clobber", 'n'), ("verbose", 'v'), ("target-directory", 't'), ("no-target-directory", 'T')]

/-- The sources and the target that arguments name, and whether the target is a directory into which
the sources go. An error is a complaint and whether it says where to read more. -/
def ends (given : Given) (disk : Disk) : Except (Text × Bool) (List Text × Text × Bool) :=
  match given.value? 't', given.operands.reverse with
  | _, [] => .error ("missing file operand".toList, true)
  | some dir, sources => .ok (sources.reverse, dir, true)
  | none, [source] =>
    .error ("missing destination file operand after ".toList ++ quoted source, true)
  | none, target :: sources =>
    if !given.has 'T' && isDirectory disk target then .ok (sources.reverse, target, true)
    else if sources.length = 1 then .ok (sources, target, false)
    else
      let reason := match statFile disk target with
        | .ok _ => IoError.notADirectory.reason
        | .error e => e.reason
      .error ("target ".toList ++ quoted target ++ ": ".toList ++ reason, false)

/-- Copies or moves paths to a target. What is done with each is told if that is asked for. -/
def transfer (name : String) (one : Given → Disk → Text → Text → Except Text Disk)
    (deed : Text) : Tool :=
  transferSpec.tool name 1 fun given => do
    match ends given (← get).disk with
    | .error (message, true) => Work.misused name.toList message 1
    | .error (message, false) => Work.complain name.toList message 1
    | .ok (sources, target, into) =>
      sources.forM fun source => do
        let target := if into then inside target (lastName source) else target
        match one given (← get).disk source target with
        | .error message => Work.complain name.toList message 1
        | .ok disk =>
          modify fun b => { b with disk := disk }
          if given.has 'v' then
            Work.print (Text.endLine
              (deed ++ quoted (bare source) ++ " -> ".toList ++ quoted target))

/-- Copies files and directories. -/
def cp : Tool :=
  transfer "cp" copyOne []

/-- Moves files and directories. -/
def mv : Tool :=
  transfer "mv" moveOne "renamed ".toList

/-! ## Names -/

def basenameSpec : OptionSpec where
  flags := "az"
  valued := "s"
  long := [("multiple", 'a'), ("suffix", 's')]
  strict := true

/-- A name without an ending, unless it would be empty. -/
def withoutEnding (ending name : Text) : Text :=
  ((Text.before? ending name).filter (!·.isEmpty)).getD name

/-- Prints the last names of paths. -/
def basename : Tool :=
  basenameSpec.tool "basename" 1 fun given => do
    let several := given.has 'a' || given.has 's'
    match several, given.operands with
    | _, [] => Work.misused "basename".toList "missing operand".toList 1
    | false, _ :: _ :: extra :: _ =>
      Work.misused "basename".toList ("extra operand ".toList ++ quoted extra) 1
    | false, path :: ending =>
      Work.print (Text.endLine (withoutEnding (ending.headD []) (lastName path)))
    | true, paths =>
      Work.print (unlines (paths.map fun path =>
        withoutEnding ((given.value? 's').getD []) (lastName path)))

/-- A path without its last name. -/
def around (path : Text) : Text :=
  let s := bare path
  if !s.contains '/' then ['.']
  else
    let dir := (s.reverse.dropWhile (· ≠ '/')).reverse
    bare dir

def dirnameSpec : OptionSpec where
  flags := "z"
  valued := ""
  long := [("zero", 'z')]

/-- Prints paths without their last names. -/
def dirname : Tool :=
  dirnameSpec.tool "dirname" 1 fun given => do
    if given.operands.isEmpty then Work.misused "dirname".toList "missing operand".toList 1
    Work.print (unlines (given.operands.map around))

def realSpec : OptionSpec where
  flags := "efmnqsz"
  valued := ""
  long := [("canonicalize", 'f'), ("canonicalize-existing", 'e'), ("canonicalize-missing", 'm')]

/-- Prints where paths lead from the root. -/
def realpath : Tool :=
  realSpec.tool "realpath" 1 fun given => do
    if given.operands.isEmpty then Work.misused "realpath".toList "missing operand".toList 1
    given.operands.forM fun path => do
      let disk := (← get).disk
      match disk.place (Text.narrow path), disk.stat (Text.narrow path) with
      | .error e, _ => Work.complainOf "realpath".toList path e 1
      | .ok _, _ =>
        Work.print (Text.endLine ('/' :: Text.widen
          (PathName.ofSegments (locationOf disk path).reverse)))

def pwd : Tool := fun _ => do
  Work.print (Text.endLine (workingPath (← get).disk))

/-! ## Permissions -/

/-- Whether a text says which permissions are given or taken. -/
def isMode (s : Text) : Bool :=
  (!s.isEmpty && s.length ≤ 4 && s.all fun c => '0' ≤ c && c ≤ '7')
    || (s.splitOnP (· = ',')).all fun clause =>
      let rest := clause.dropWhile fun c => "ugoa".toList.contains c
      match rest with
      | sign :: what => "+-=".toList.contains sign && what.all fun c => "rwxXst".toList.contains c
      | [] => false

/-- Looks whether files are there whose permissions would change. Permissions are not kept. -/
def chmod : Tool := fun args =>
  let operands := args.filter fun a => ["-R", "-v", "-f", "--"].all fun o => o.toList ≠ a
  match operands with
  | [] => Work.misused "chmod".toList "missing operand".toList 1
  | [mode] => Work.misused "chmod".toList ("missing operand after ".toList ++ quoted mode) 1
  | mode :: paths =>
    if !isMode mode then Work.misused "chmod".toList ("invalid mode: ".toList ++ quoted mode) 1
    else paths.forM fun path => do
      match statFile (← get).disk path with
      | .ok _ => return
      | .error e => Work.cannot "chmod".toList "access".toList path e.reason 1

end Weave.Shell.Directory

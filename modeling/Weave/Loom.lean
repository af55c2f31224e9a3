import Weave.Collections
import Weave.Fence
import Weave.Session
import Weave.Options

/-!
# Weave.Loom — a page, line by line

A loom reads a page line by line and puts out the rendered page. Outside managed blocks lines are
copied; a managed block is shown when its closing line comes, and what running it reports is put
below it. Blocks refer only to collections above them, so one pass in order is enough.

`advance` is the machine without effects: it says what a line leads to, which may be a request
whose answer it awaits. `feed` lets a runner answer, `weave` feeds a whole page.
-/

namespace Weave

/-! ## State -/

/-- Where a loom is between two lines. -/
inductive Phase where
  | outside
  | inside (block : Block)
deriving Repr, DecidableEq, Inhabited

/-- The state of a loom between two lines. -/
structure Loom where
  phase : Phase
  collections : Collections
  /-- The rendered page so far. -/
  output : Text
  /-- The number of managed blocks that were closed. -/
  blocks : Nat
  /-- What was ignored so far. -/
  warnings : List Fence.Warning
deriving Inhabited

structure Page where
  content : Text
  managedBlocks : Nat
deriving Repr, DecidableEq, Inhabited

namespace Loom

/-- The loom before the first line. -/
def start : Loom :=
  ⟨.outside, .empty, [], 0, []⟩

/-- The loom with more text put out. -/
def emit (loom : Loom) (s : Text) : Loom :=
  { loom with output := loom.output ++ s }

/-! ## Blocks on the page -/

def openingLine (language : Text) (highlight : Option Text) : Text :=
  match highlight with
  | some annotation => Fence.marker ++ language ++ ' ' :: annotation
  | none => Fence.marker ++ language

def shownBlock (language : Text) (block : Block) : Text :=
  Text.endLine (openingLine language block.highlight) ++ block.body
    ++ Text.endLine Fence.marker

def shownReport (resultTag report : Text) : Text :=
  '\n' :: Text.endLine (Fence.marker ++ resultTag) ++ report ++ Text.endLine Fence.marker

/-! ## Closing a block -/

/-- A request that a block leads to, and the collection that is gone once it was answered. -/
structure Job where
  request : Request
  consumes : Option (Family × CollectionId)
deriving Repr, DecidableEq, Inhabited

/-- What remains to be done when a block is closed and shown. -/
inductive Work where
  /-- Nothing. -/
  | rest
  /-- The body is added to a collection. -/
  | collect (family : Family) (id : CollectionId)
  | run (job : Job)
deriving Repr, DecidableEq, Inhabited

/-- The request for a collection: the public text, what was collected, and the body itself. -/
def collectionJob (collections : Collections) (block : Block) (family : Family)
    (id : CollectionId) : Except Failure Job := do
  if id.isPublic then throw (.wildcardExecution family block.lineNumber)
  let collected ← collections.resolve family id block.lineNumber
  let body := collections.publicText family ++ collected ++ block.body
  return ⟨⟨family.mode, body⟩, some (family, id)⟩

/-- What a closed block leads to. -/
def workOf (options : Options) (collections : Collections) (block : Block) :
    Except Failure Work :=
  match block.kind with
  | .skip => .ok .rest
  | .collect family id => .ok (.collect family id)
  | .execute family id => (collectionJob collections block family id).map .run
  | .plain =>
    match options.entryPoint.wrap block.body with
    | .ok program => .ok (.run ⟨⟨.run, program⟩, none⟩)
    | .error cause => .error (.template cause)
  | .singleFile => .ok (.run ⟨⟨.run, block.body⟩, none⟩)

/-- The loom after a block was closed and shown, and before it was run or collected. -/
def showBlock (options : Options) (loom : Loom) (block : Block) : Loom :=
  { loom.emit (shownBlock options.language block) with
    phase := .outside
    blocks := loom.blocks + 1 }

/-- The loom after a request was answered. -/
def answered (options : Options) (loom : Loom) (job : Job) (report : Text) : Loom :=
  let collections := match job.consumes with
    | some (family, id) => loom.collections.consume family id
    | none => loom.collections
  { loom.emit (shownReport options.resultTag report) with collections := collections }

/-! ## Reading a line -/

/-- What a line leads to. -/
inductive Step where
  | settled (loom : Loom)
  | refused (failure : Failure) (loom : Loom)
  /-- A request has to be answered first. If that fails the loom stays as it is here. -/
  | awaiting (job : Job) (loom : Loom)

/-- Reads a line outside managed blocks. -/
def readOutside (options : Options) (loom : Loom) (index : Nat) (line : Text) : Step :=
  let text := Text.chomp line
  match Fence.classify options.language text index with
  | .error failure => .refused failure loom
  | .ok none => .settled (loom.emit line)
  | .ok (some annotation) => .settled
    { loom with
      phase := .inside (.opened annotation.kind index annotation.highlight)
      warnings := loom.warnings ++ Fence.warnings options.language text index }

def readClosing (options : Options) (loom : Loom) (block : Block) : Step :=
  let shown := loom.showBlock options block
  match workOf options loom.collections block with
  | .error failure => .refused failure shown
  | .ok .rest => .settled shown
  | .ok (.collect family id) =>
    .settled { shown with collections := shown.collections.record family id block }
  | .ok (.run job) => .awaiting job shown

/-- Reads a line, given with its terminator and with its index, counted from zero. -/
def advance (options : Options) (loom : Loom) (index : Nat) (line : Text) : Step :=
  match loom.phase with
  | .outside => readOutside options loom index line
  | .inside block =>
    let text := Text.chomp line
    -- no other line has a meaning inside a block
    if Fence.isClose text then readClosing options loom block
    else .settled { loom with phase := .inside (block.addLine text) }

/-- Ends the page. A block that is still open is an error. -/
def finish (loom : Loom) : Except Failure Page :=
  match loom.phase with
  | .inside block => .error (.unterminatedBlock block.lineNumber)
  | .outside => .ok ⟨loom.output, loom.blocks⟩

/-! ## Running -/

variable {σ : Type}

/-- Finishes a step: a request is answered by the runner. -/
def settle (options : Options) (runner : Runner σ) (step : Step) (session : Session σ) :
    Except Failure Unit × Loom × Session σ :=
  match step with
  | .settled loom => (.ok (), loom, session)
  | .refused failure loom => (.error failure, loom, session)
  | .awaiting job loom =>
    match runner job.request session with
    | (.ok report, session) => (.ok (), loom.answered options job report, session)
    | (.error failure, session) => (.error failure, loom, session)

/-- Reads a line and runs what it asks for. -/
def feed (options : Options) (runner : Runner σ) (loom : Loom) (index : Nat) (line : Text)
    (session : Session σ) : Except Failure Unit × Loom × Session σ :=
  settle options runner (loom.advance options index line) session

/-- Feeds lines, the first of which has the given index, up to the first failure. -/
def feedAll (options : Options) (runner : Runner σ) (loom : Loom) (index : Nat) :
    List Text → Session σ → Except Failure Unit × Loom × Session σ
  | [], session => (.ok (), loom, session)
  | line :: lines, session =>
    match loom.feed options runner index line session with
    | (.ok (), loom, session) => feedAll options runner loom (index + 1) lines session
    | (.error failure, loom, session) => (.error failure, loom, session)

end Loom

/-- What comes of a page: the rendered page or the first failure, what was ignored, and the
session afterwards. -/
structure Weaving (σ : Type) where
  result : Except Failure Page
  warnings : List Fence.Warning
  session : Session σ

def weave {σ : Type} (options : Options) (runner : Runner σ) (content : Text)
    (session : Session σ) : Weaving σ :=
  match Loom.start.feedAll options runner 0 (Text.lines content) session with
  | (.ok (), loom, session) => ⟨loom.finish, loom.warnings, session⟩
  | (.error failure, loom, session) => ⟨.error failure, loom.warnings, session⟩

end Weave

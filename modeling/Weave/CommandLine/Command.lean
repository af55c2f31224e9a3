import Weave.CommandLine.Arguments
import Weave.CommandLine.Paint
import Weave.Project

/-!
# Weave.CommandLine.Command — doing what a command line says

`Job.run` renders a document and says what came of it: the page was written, printed, or compared
with the page on the disk. `command` reads a command line first. Both give the texts for standard
output and for standard error and the disk afterwards.
-/

namespace Weave.CommandLine

/-! ## Outcomes -/

inductive Ending where
  | done
  /-- The page on the disk is not the page of the document. -/
  | stale
  | failed
  /-- The command line has an error. -/
  | misused
  /-- The command goes on whenever a file changes. -/
  | watching
deriving Repr, DecidableEq, Inhabited

def Ending.status : Ending → Nat
  | .done => 0
  | .stale => 1
  | .failed => 1
  | .misused => 65
  | .watching => 0

/-- What a command leaves besides the disk. -/
structure Outcome where
  ending : Ending
  stdout : Text
  stderr : Text
deriving Repr, DecidableEq, Inhabited

namespace Outcome

/-- Nothing but a text on standard output. -/
def print (s : Text) : Outcome :=
  ⟨.done, s, []⟩

/-- One outcome after another. The later one says how the command ends. -/
def andThen (first second : Outcome) : Outcome :=
  ⟨second.ending, first.stdout ++ second.stdout, first.stderr ++ second.stderr⟩

end Outcome

/-- How results are shown. -/
structure Manner where
  colours : Bool
  verbose : Bool
deriving Repr, DecidableEq, Inhabited

/-! ## Failures -/

/-- The word that messages about errors begin with. -/
def errorWord (colours : Bool) : Text :=
  paint colours .red "error:".toList

/-- How a failure is shown: its code, its wording and a hint if there is one. -/
def showFailure (colours : Bool) (failure : Failure) : Text :=
  let hint := match failure.help? with
    | some help => Text.endLine ("  help: ".toList ++ help)
    | none => []
  Text.endLine (paintReset colours .red failure.code)
    ++ '\n' :: Text.endLine ("  ".toList ++ failure.message) ++ hint

/-- The document could not be rendered. -/
def failedBy (manner : Manner) (failure : Failure) : Outcome :=
  ⟨.failed, [], showFailure manner.colours failure⟩

/-- A file could not be used after the document was rendered. -/
def failedByIo (manner : Manner) (cause : IoError) : Outcome :=
  ⟨.failed, [], Text.endLine (errorWord manner.colours ++ ' ' :: cause.message)⟩

/-! ## Jobs -/

/-- What was done with a page, for whom, and how much of it was run. -/
def summary (root verb : Text) (report : DocumentReport) : Text :=
  verb ++ ' ' :: PathName.relativeTo root report.output ++ " (".toList
    ++ Text.ofNat report.managedBlocks ++ " block(s), ".toList
    ++ Text.ofNat report.stats.runs ++ " run, ".toList
    ++ Text.ofNat report.stats.hits ++ " cached).".toList

/-- The text of the page on the disk. A page that is missing is empty. -/
def currentPage (disk : Disk) (path : Text) : Except IoError Text :=
  match disk.readText path with
  | .error .notFound => .ok []
  | result => result

/-- The page on the disk is the page of the document. -/
def upToDate (manner : Manner) (root : Text) (report : DocumentReport) : Outcome :=
  .print <| Text.endLine <| paint manner.colours .green "ok:".toList
    ++ ' ' :: PathName.relativeTo root report.output ++ " is up to date.".toList

/-- The page on the disk differs from the page of the document. -/
def outOfDate (manner : Manner) (root current : Text) (report : DocumentReport) : Outcome :=
  ⟨.stale, [],
    Text.endLine (paint manner.colours .yellow "stale:".toList
        ++ ' ' :: PathName.relativeTo root report.output ++ " is out of date.".toList)
      ++ showChanges manner.colours current report.content
      ++ '\n' :: Text.endLine ("Run ".toList
        ++ Failure.ticked ("zmd run ".toList ++ PathName.relativeTo root report.input)
        ++ " to update it.".toList)⟩

/-- Compares the page on the disk with the page of the document. -/
def compare (manner : Manner) (root : Text) (report : DocumentReport) (disk : Disk) : Outcome :=
  match currentPage disk report.output with
  | .error e => failedByIo manner e
  | .ok current =>
    if current = report.content then upToDate manner root report
    else outOfDate manner root current report

def printed (root : Text) (report : DocumentReport) : Outcome :=
  ⟨.done, report.content,
    Text.endLine (summary root "Dry run: would write".toList report)⟩

def written (manner : Manner) (root : Text) (report : DocumentReport) : Outcome :=
  let source :=
    if manner.verbose then
      Text.endLine ("  from ".toList ++ PathName.relativeTo root report.input)
    else []
  .print (Text.endLine (summary root "Rendered".toList report) ++ source)

namespace Job

/-- Where the page of a job goes. It is not written if it is only compared or printed. -/
def target (job : Job) (root : Text) : Target :=
  ⟨job.output.map (PathName.join root), job.dryRun || job.check⟩

def renderIn (job : Job) (programs : Programs) (project : Project) (disk : Disk) :
    Except Failure DocumentReport × Disk :=
  let (result, session) :=
    project.process (project.runner programs job.noCache)
      (PathName.join project.root job.input) (job.target project.root) (.start (.ofDisk disk ()))
  (result, session.world.disk)

/-- Renders the document of a job. Paths are seen from the root of the project. -/
def render (job : Job) (programs : Programs) (root : Text) (disk : Disk) :
    Except Failure DocumentReport × Disk :=
  match Project.load disk root with
  | .error failure => (.error failure, disk)
  | .ok project => job.renderIn programs project disk

/-- What is shown when the document of a job was rendered. -/
def conclude (job : Job) (manner : Manner) (root : Text) (report : DocumentReport) (disk : Disk) :
    Outcome :=
  if job.check then compare manner root report disk
  else if job.dryRun then printed root report
  else written manner root report

def once (job : Job) (programs : Programs) (manner : Manner) (root : Text) (disk : Disk) :
    Outcome × Disk :=
  match job.render programs root disk with
  | (.error failure, disk) => (failedBy manner failure, disk)
  | (.ok report, disk) => (job.conclude manner root report disk, disk)

/-- What is shown when the command begins to wait for changes. The root has to exist. -/
def beginWatching (manner : Manner) (root : Text) (disk : Disk) : Outcome :=
  let notice := Outcome.print "\nWatching for file changes... (press Ctrl+C to stop)\n".toList
  match disk.stat root with
  | .error e => notice.andThen (failedByIo manner e)
  | .ok _ => notice.andThen ⟨.watching, [], []⟩

/-- Does a job. If it waits for changes, what came of the comparison with the page is only shown. -/
def run (job : Job) (programs : Programs) (manner : Manner) (root : Text) (disk : Disk) :
    Outcome × Disk :=
  let (outcome, disk) := job.once programs manner root disk
  if job.watch && outcome.ending ≠ .failed then
    (outcome.andThen (beginWatching manner root disk), disk)
  else (outcome, disk)

end Job

/-! ## Command lines -/

def versionText : Text :=
  "zmd_cli 0.1.0\n".toList

def usage : Text :=
  "Usage: zmd [--path <PATH>] [--verbose] [--no-color] run [--output <OUTPUT>]".toList
    ++ " [--no-cache] [--dry-run] [--check] [--watch] [INPUT]\n".toList

/-- What the program says about an error in its command line. -/
def misused (word message : Text) : Outcome :=
  ⟨.misused, [], Text.endLine (word ++ ' ' :: message)
    ++ '\n' :: usage ++ "\nFor more information, try '--help'.\n".toList⟩

/-- What the program does where reading a command line ended early. -/
def Stop.outcome : Stop → Outcome
  | .help => .print usage
  | .version => .print versionText
  | .error cause => misused (errorWord false) cause.message

/-- A job with all that is needed to do it. -/
structure Plan where
  job : Job
  manner : Manner
  root : Text
deriving Repr, DecidableEq, Inhabited

/-- What a command line asks for, or what the program says instead. Colours are used if the terminal
wants them and the command line does not forbid them. Without a root the working directory is
one. -/
def Plan.read (colours : Bool) (arguments : List Text) (disk : Disk) : Except Outcome Plan :=
  match Invocation.read arguments with
  | .error stop => .error stop.outcome
  | .ok invocation =>
    let manner := ⟨colours && !invocation.noColor, invocation.verbose⟩
    match invocation.job with
    | .error omission => .error (misused (errorWord manner.colours) omission.message)
    | .ok job => .ok ⟨job, manner, invocation.root.getD disk.workPath⟩

def command (programs : Programs) (colours : Bool) (arguments : List Text) (disk : Disk) :
    Outcome × Disk :=
  match Plan.read colours arguments disk with
  | .error outcome => (outcome, disk)
  | .ok plan => plan.job.run programs plan.manner plan.root disk

end Weave.CommandLine

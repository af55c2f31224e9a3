import Mathlib.Control.Monad.Basic
import Weave.CommandLine.Command

/-!
# Weave.Proofs.Checking — when a page is found to be up to date

With `--check` a document is rendered and compared with the text that stands where its page would
go. The comparison is between two texts, and a page that is missing has the empty text.

* `Node.text_eq_ok_iff`: which texts can be read from a path.
* `status_compare`: a comparison ends well if a regular file holds the document. If the document is
  empty, it also ends well where nothing can be read.
* `command_check`: the same for whole command lines.
* `command_check_missing`: a command line that finds a missing page up to date.
-/

namespace Weave

/-! ## Texts on a disk -/

/-- What is read where a text is asked for. -/
def Node.text : Node → Except IoError Text
  | .dir => .error .isADirectory
  | .sink => .ok []
  | .file bytes =>
    match Text.decode? bytes with
    | some s => .ok s
    | none => .error .invalidData

/-- A text is read from the file that has its bytes. The empty text is also read from a device that
forgets. -/
theorem Node.text_eq_ok_iff {node : Node} {s : Text} :
    node.text = .ok s ↔ node = .file (Text.encode s) ∨ s = [] ∧ node = .sink := by
  cases node with
  | dir => simp [text]
  | sink => simp [text, eq_comm]
  | file bytes =>
    have hbytes : bytes = Text.encode s ↔ Text.decode? bytes = some s :=
      Text.decode?_eq_some_iff.symm
    cases hdecode : Text.decode? bytes <;> simp [text, hbytes, hdecode]

/-- What stands somewhere is not missing. -/
theorem Node.text_ne_notFound (node : Node) : node.text ≠ .error .notFound := by
  cases node with
  | dir => simp [text]
  | sink => simp [text]
  | file bytes => cases hdecode : Text.decode? bytes <;> simp [text, hdecode]

/-- Reading a path is reading what stands there. -/
theorem Disk.readText_eq (disk : Disk) (path : Text) :
    disk.readText path = (disk.stat path).bind Node.text := by
  unfold readText read
  cases disk.stat path with
  | error e => rfl
  | ok node =>
    cases node with
    | dir => rfl
    | sink =>
      have hempty : Text.decode? ByteArray.empty = some [] := Text.decode?_encode []
      simp [bind, pure, Except.bind, Except.pure, Node.text, hempty]
    | file bytes => rfl

namespace CommandLine

/-! ## The comparison -/

/-- The page that a comparison sees: that of a regular file, or the empty one where nothing can be
read. -/
theorem currentPage_eq_ok_iff {disk : Disk} {path s : Text} :
    currentPage disk path = .ok s
      ↔ disk.stat path = .ok (.file (Text.encode s))
        ∨ s = [] ∧ (disk.stat path = .error .notFound ∨ disk.stat path = .ok .sink) := by
  rw [currentPage, Disk.readText_eq]
  cases disk.stat path with
  | error e => cases e <;> simp [Except.bind, eq_comm]
  | ok node =>
    have hfound := node.text_ne_notFound
    have hread : node.text = .ok s ↔ _ := Node.text_eq_ok_iff
    simp only [Except.bind, Except.ok.injEq, reduceCtorEq, false_or, ← hread]

/-- A comparison ends well if the two texts are the same, and with a failure otherwise. -/
theorem status_compare (manner : Manner) (root : Text) (report : DocumentReport) (disk : Disk) :
    (compare manner root report disk).ending.status
      = if currentPage disk report.output = .ok report.content then 0 else 1 := by
  unfold compare
  cases currentPage disk report.output with
  | error e => rfl
  | ok current =>
    by_cases hsame : current = report.content
    · simp [hsame, upToDate, Outcome.print, Ending.status]
    · simp [hsame, outOfDate, Ending.status]

/-- A job that compares and does not wait for changes does nothing after the rendering but the
comparison. -/
theorem Job.run_of_check {job : Job} {programs : Programs} {manner : Manner} {root : Text}
    {disk after : Disk} {report : DocumentReport} (hcheck : job.check = true)
    (hwatch : job.watch = false) (hrender : job.render programs root disk = (.ok report, after)) :
    job.run programs manner root disk = (compare manner root report after, after) := by
  simp [run, once, conclude, hrender, hcheck, hwatch]

/-! ## Command lines -/

/-- A command line that compares, and whose document is rendered, ends with status 0 or 1. If the
document is not empty, it is 0 exactly if a regular file with the bytes of the document stands where
its page would go. An empty document is also found where nothing stands, and in a device that
forgets. -/
theorem command_check {programs : Programs} {colours : Bool} {arguments : List Text}
    {disk after : Disk} {plan : Plan} {report : DocumentReport}
    (hplan : Plan.read colours arguments disk = .ok plan) (hcheck : plan.job.check = true)
    (hwatch : plan.job.watch = false)
    (hrender : plan.job.render programs plan.root disk = (.ok report, after)) :
    let ran := command programs colours arguments disk
    let status := ran.1.ending.status
    ran.2 = after ∧ (status = 0 ∨ status = 1) ∧
      (report.content ≠ [] →
        (status = 0 ↔ after.stat report.output = .ok (.file (Text.encode report.content)))) ∧
      (report.content = [] →
        (status = 0 ↔ after.stat report.output = .ok (.file ByteArray.empty)
          ∨ after.stat report.output = .error .notFound
          ∨ after.stat report.output = .ok .sink)) := by
  intro ran status
  have hran : ran = (compare plan.manner plan.root report after, after) := by
    simp only [ran, command, hplan]
    exact Job.run_of_check hcheck hwatch hrender
  have hstatus : status
      = if currentPage after report.output = .ok report.content then 0 else 1 := by
    simp only [status, hran, status_compare]
  have hzero : status = 0 ↔ currentPage after report.output = .ok report.content := by
    rw [hstatus]
    split <;> simp [*]
  rw [currentPage_eq_ok_iff] at hzero
  refine ⟨by rw [hran], ?_, ?_, ?_⟩
  · rw [hstatus]
    split <;> simp
  · intro hcontent
    simp [hzero, hcontent]
  · intro hcontent
    have hempty : Text.encode [] = ByteArray.empty := rfl
    simp [hzero, hcontent, hempty]

/-- A working directory with a source of one line in one directory and its page in another. -/
def checkedDisk : Disk :=
  ((Disk.blank ["w".toList]).plantAt "book/a.z.md".toList
    (.file (Text.encode "# A\n".toList))).plantAt "site/a.md".toList
      (.file (Text.encode "# A\n".toList))

/-- A command line that compares the page in the other directory, without a cache. -/
def checkingLine : List Text :=
  ["--path", "book", "run", "a.z.md", "--output", "/w/site/a.md", "--no-cache", "--check"].map
    String.toList

/-- What the command line asks for. -/
def checkingPlan : Plan :=
  ⟨⟨"a.z.md".toList, some "/w/site/a.md".toList, true, false, true, false⟩, ⟨true, false⟩,
    "book".toList⟩

/-- No program can be started. -/
def noPrograms : Programs :=
  fun _ _ _ => .error .notFound

/-- The page is up to date, so a regular file holds it. -/
theorem command_check_upToDate :
    Plan.read true checkingLine checkedDisk = .ok checkingPlan ∧
      ∃ report after,
        checkingPlan.job.render noPrograms "book".toList checkedDisk = (.ok report, after) ∧
        report.content = "# A\n".toList ∧
        (command noPrograms true checkingLine checkedDisk).1.ending.status = 0 ∧
        after.stat report.output = .ok (.file (Text.encode report.content)) := by
  have hplan : Plan.read true checkingLine checkedDisk = .ok checkingPlan := by decide +kernel
  have hstatus : (command noPrograms true checkingLine checkedDisk).1.ending.status = 0 := by
    decide +kernel
  have hcontent : (checkingPlan.job.render noPrograms "book".toList checkedDisk).1.map
      DocumentReport.content = .ok "# A\n".toList := by
    decide +kernel
  rcases hrender : checkingPlan.job.render noPrograms "book".toList checkedDisk
    with ⟨failure | report, after⟩
  · rw [hrender] at hcontent
    cases hcontent
  · rw [hrender] at hcontent
    have hcontent : report.content = "# A\n".toList := Except.ok.inj hcontent
    have hlines : report.content ≠ [] := by simp [hcontent]
    obtain ⟨-, -, hholds, -⟩ := command_check hplan rfl rfl hrender
    exact ⟨hplan, report, after, rfl, hcontent, hstatus, (hholds hlines).1 hstatus⟩

/-- A working directory with an empty source. -/
def emptySourceDisk : Disk :=
  (Disk.blank ["w".toList]).plantAt "a.z.md".toList (.file ByteArray.empty)

/-- The page of an empty source is found to be up to date, though it is missing. -/
theorem command_check_missing :
    let ran := command noPrograms true (["run", "a.z.md", "--check"].map String.toList)
      emptySourceDisk
    ran.1 = .print "\x1b[32mok:\x1b[39m a.md is up to date.\n".toList ∧
      ran.1.ending.status = 0 ∧ ran.2.pathExists "a.md".toList = false := by
  decide +kernel

end CommandLine

end Weave

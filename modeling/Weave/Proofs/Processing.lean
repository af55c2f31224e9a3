import Mathlib.Control.Monad.Basic
import Weave.Document
import Weave.Proofs.Footprint
import Weave.Script

/-!
# Weave.Proofs.Processing — a document is processed completely or not at all

A document is read, rendered, and only then written. `Processed` lists the ways in which that can
end; all but the last write nothing. What is left are the files of the cache, for the reports of the
blocks before a failure are kept.

* `processed`, `exists_report_iff`: the ways to end, and when a document succeeds.
* `process_allOrNothing`: a failure and a dry run change no file outside of the cache's directory,
  and a success changes the page's file alone, which then holds the page.
* `process_toDevice`: a device that forgets what is written does not hold the page.
-/

namespace Weave

/-! ## Where reports are kept -/

/-- Where the reports of a session are kept. -/
inductive Keeping where
  | nowhere
  | memory
  | directory (dir : Text)

namespace Keeping

variable {τ : Type}

/-- The cache for it. -/
def cache : Keeping → Cache (World τ)
  | nowhere => .none
  | memory => .memory
  | directory dir => .disk dir

/-- The locations in the directory of the cache, if there is one. -/
def InDirectory (keeping : Keeping) (disk : Disk) (location : Location) : Prop :=
  match keeping with
  | nowhere => False
  | memory => False
  | directory dir => ∃ name, location = name :: disk.locationOf dir

/-- A cache changes no file outside of its directory. -/
theorem cache_staysIn (keeping : Keeping) (disk : Disk) :
    (keeping.cache : Cache (World τ)).StaysIn disk.workDir (keeping.InDirectory disk) := by
  cases keeping with
  | nowhere => exact Cache.none_staysIn _ _
  | memory => exact Cache.memory_staysIn _ _
  | directory dir =>
    intro request report world hworkDir
    have hstays := Cache.disk_staysIn dir disk request report world hworkDir
    exact hstays.mono fun _ => DiskCache.exists_name_of_owns

end Keeping

/-- The toolchain creates, changes and removes no file. -/
def Toolchain.LeavesFiles {τ : Type} (toolchain : Toolchain (World τ)) : Prop :=
  ∀ request (world : World τ),
    world.disk.ModifiesOnly Disk.Nowhere (toolchain.execute request world).2.disk

namespace Document

variable {τ : Type}

/-! ## The ways to end -/

/-- How a document was processed, and the session that was left. -/
inductive Processed (input suffix : Text) (options : Options) (target : Target)
    (runner : Runner (World τ)) (session : Session (World τ)) :
    Except Failure DocumentReport × Session (World τ) → Prop where
  /-- There is no name for the page. -/
  | unnamed (failure : Failure) (htarget : targetPath input suffix target = .error failure) :
      Processed input suffix options target runner session (.error failure, session)
  /-- The source cannot be read. -/
  | unread (e : IoError) (hread : session.world.disk.readText input = .error e) :
      Processed input suffix options target runner session (.error (.io e), session)
  /-- The rendering fails. -/
  | unrendered (source : Text) (failure : Failure)
      (hread : session.world.disk.readText input = .ok source)
      (hresult : (weave options runner source session).result = .error failure) :
      Processed input suffix options target runner session
        (.error failure, (weave options runner source session).session)
  /-- The page cannot be written. -/
  | unwritten (output source : Text) (page : Page) (e : IoError)
      (htarget : targetPath input suffix target = .ok output)
      (hread : session.world.disk.readText input = .ok source)
      (hresult : (weave options runner source session).result = .ok page)
      (hwrite : writePage (weave options runner source session).session.world.disk output
        page.content target = .error e) :
      Processed input suffix options target runner session
        (.error (.io e), (weave options runner source session).session)
  /-- The page is written, unless it was only to be rendered. -/
  | done (output source : Text) (page : Page) (disk : Disk) (report : DocumentReport)
      (after : Session (World τ))
      (htarget : targetPath input suffix target = .ok output)
      (hread : session.world.disk.readText input = .ok source)
      (hresult : (weave options runner source session).result = .ok page)
      (hwrite : writePage (weave options runner source session).session.world.disk output
        page.content target = .ok disk)
      (hreport : report = ⟨input, output, page.content, page.managedBlocks,
        (weave options runner source session).session.stats.since session.stats, !target.dryRun⟩)
      (hafter : after.world.disk = disk) :
      Processed input suffix options target runner session (.ok report, after)

theorem processed (input suffix : Text) (options : Options) (target : Target)
    (runner : Runner (World τ)) (session : Session (World τ)) :
    Processed input suffix options target runner session
      (process input suffix options target runner session) := by
  unfold process
  split
  · next failure htarget => exact .unnamed failure htarget
  · next output htarget =>
    split
    · next e hread => exact .unread e hread
    · next source hread =>
      simp only
      split
      · next failure hresult => exact .unrendered source failure hread hresult
      · next page hresult =>
        split
        · next e hwrite => exact .unwritten output source page e htarget hread hresult hwrite
        · next disk hwrite =>
          exact .done output source page disk _ _ htarget hread hresult hwrite rfl rfl

/-- A document succeeds exactly if its page has a name, its source can be read and rendered, and
the page can be written. -/
theorem exists_report_iff (input suffix : Text) (options : Options) (target : Target)
    (runner : Runner (World τ)) (session : Session (World τ)) :
    (∃ report after, process input suffix options target runner session = (.ok report, after)) ↔
      ∃ output source page disk, targetPath input suffix target = .ok output ∧
        session.world.disk.readText input = .ok source ∧
        (weave options runner source session).result = .ok page ∧
        writePage (weave options runner source session).session.world.disk output page.content
          target = .ok disk := by
  have hprocessed := processed input suffix options target runner session
  constructor
  · rintro ⟨report, after, hran⟩
    rw [hran] at hprocessed
    cases hprocessed with
    | done output source page disk _ _ htarget hread hresult hwrite hreport hafter =>
      exact ⟨output, source, page, disk, htarget, hread, hresult, hwrite⟩
  · rintro ⟨output, source, page, disk, htarget, hread, hresult, hwrite⟩
    generalize process input suffix options target runner session = ran at hprocessed ⊢
    cases hprocessed with
    | unnamed failure htarget' => simp [htarget] at htarget'
    | unread e hread' => simp [hread] at hread'
    | unrendered source' failure hread' hresult' =>
      obtain rfl : source = source' := Except.ok.inj (hread.symm.trans hread')
      simp [hresult] at hresult'
    | unwritten output' source' page' e htarget' hread' hresult' hwrite' =>
      obtain rfl : output = output' := Except.ok.inj (htarget.symm.trans htarget')
      obtain rfl : source = source' := Except.ok.inj (hread.symm.trans hread')
      obtain rfl : page = page' := Except.ok.inj (hresult.symm.trans hresult')
      simp [hwrite] at hwrite'
    | done _ _ _ _ report after _ _ _ _ _ _ => exact ⟨report, after, rfl⟩

section

variable {disk disk' : Disk} {output content : Text} {target : Target}

/-- A dry run writes nothing. -/
theorem writePage_of_dryRun (hdry : target.dryRun = true)
    (h : writePage disk output content target = .ok disk') : disk' = disk := by
  rw [writePage, if_pos hdry] at h
  exact (Except.ok.inj h).symm

theorem writePage_of_not_dryRun (hdry : target.dryRun = false)
    (h : writePage disk output content target = .ok disk') :
    disk.writeText output content = .ok disk' := by
  rwa [writePage, if_neg (by simp [hdry])] at h

end

/-! ## All or nothing -/

/-- A document succeeds exactly if nothing stands in its way. Outside of the directory of the cache,
one that fails changes no file, whatever the failure. Neither does a dry run that succeeds. If the
page is written, then its file is the only one that changes, and holds the page unless it is a device
that forgets. In both cases the page is what the text of the source is rendered to. -/
theorem process_allOrNothing {toolchain : Toolchain (World τ)} (htoolchain : toolchain.LeavesFiles)
    (keeping : Keeping) (input suffix : Text) (options : Options) (target : Target)
    (session : Session (World τ)) :
    let runner := Runner.cached toolchain keeping.cache
    let disk := session.world.disk
    let inCache := keeping.InDirectory disk
    ((∃ report after, process input suffix options target runner session = (.ok report, after)) ↔
      ∃ output source page written, targetPath input suffix target = .ok output ∧
        disk.readText input = .ok source ∧
        (weave options runner source session).result = .ok page ∧
        writePage (weave options runner source session).session.world.disk output page.content
          target = .ok written) ∧
    (∀ failure after, process input suffix options target runner session = (.error failure, after) →
      disk.ModifiesOnly inCache after.world.disk) ∧
    (∀ report after, process input suffix options target runner session = (.ok report, after) →
      (∃ source, disk.readText input = .ok source ∧
        (weave options runner source session).result
          = .ok ⟨report.content, report.managedBlocks⟩) ∧
      targetPath input suffix target = .ok report.output ∧
      report.written = !target.dryRun ∧
      (target.dryRun = true → disk.ModifiesOnly inCache after.world.disk) ∧
      (target.dryRun = false →
        disk.ModifiesOnly (fun l => inCache l ∨ l = disk.locationOf report.output)
          after.world.disk ∧
        (after.world.disk.stat report.output = .ok (.file (Text.encode report.content)) ∨
          after.world.disk.stat report.output = .ok .sink ∧
            disk.ModifiesOnly inCache after.world.disk))) := by
  intro runner disk inCache
  have hrunner : runner.StaysIn disk.workDir inCache :=
    Runner.cached_staysIn (fun request world _ => (htoolchain request world).of_nowhere)
      (keeping.cache_staysIn disk)
  have hrendered : ∀ source,
      disk.ModifiesOnly inCache (weave options runner source session).session.world.disk :=
    fun source => modifiesOnly_weave hrunner options source rfl
  have hprocessed := processed input suffix options target runner session
  refine ⟨exists_report_iff input suffix options target runner session, ?_, ?_⟩
  · intro failure after hran
    rw [hran] at hprocessed
    -- a failure comes before the disk is written to, except for what was put into the cache
    cases hprocessed with
    | unnamed _ htarget => exact .refl disk
    | unread e hread => exact .refl disk
    | unrendered source _ hread hresult => exact hrendered source
    | unwritten output source page e htarget hread hresult hwrite => exact hrendered source
  · intro report after hran
    rw [hran] at hprocessed
    cases hprocessed with
    | done output source page written _ _ htarget hread hresult hwrite hreport hafter =>
      subst hreport hafter
      have hbefore := hrendered source
      refine ⟨⟨source, hread, hresult⟩, htarget, rfl, ?_, ?_⟩
      · intro hdry
        rw [writePage_of_dryRun hdry hwrite]
        exact hbefore
      · intro hdry
        have hwrite := writePage_of_not_dryRun hdry hwrite
        have hwritten := Disk.modifiesOnly_write hwrite
        rw [Disk.locationOf_congr hbefore.workDir] at hwritten
        refine ⟨(hbefore.mono fun _ => .inl).trans (hwritten.mono fun _ => .inr), ?_⟩
        -- a device takes the page without a trace
        rcases Disk.stat_of_write hwrite with hstat | ⟨hstat, hsame⟩
        · exact .inl hstat
        · refine .inr ⟨hstat, ?_⟩
          rw [hsame]
          exact hbefore

/-- A working directory with a source that has one program. -/
def programDisk : Disk :=
  (Disk.blank ["w".toList]).plantAt "a.z.md".toList
    (.file (Text.encode "```zig -singleFile\nx\n```\n".toList))

/-- The page of the program: the program, and what it printed. -/
def programPage : Text :=
  "```zig\nx\n```\n\n```ansi\n$stdout:\nx\n$stderr returns nothing.\n```\n".toList

/-- A session in that directory, with a toolchain that answers by the program itself. -/
def programSession : Session (World Script) :=
  .start (.ofDisk programDisk (.ofResponses []))

/-- The page is written next to the source, and its report is kept in the directory `cache`. No
other file changes. -/
theorem process_allOrNothing_program :
    Toolchain.scripted.LeavesFiles ∧ ∃ report after,
      process "a.z.md".toList ".z.md".toList .standard ⟨none, false⟩
        (Runner.cached Toolchain.scripted (Keeping.directory "cache".toList).cache)
        programSession = (.ok report, after) ∧
      report.output = "a.md".toList ∧ report.content = programPage ∧ report.written = true ∧
      after.world.disk.stat report.output = .ok (.file (Text.encode report.content)) ∧
      programSession.world.disk.ModifiesOnly
        (fun l => (∃ name, l = [name, "cache".toList, "w".toList])
          ∨ l = ["a.md".toList, "w".toList])
        after.world.disk := by
  have hleaves : Toolchain.scripted.LeavesFiles := fun _ world => .refl world.disk
  have hcontent : (process "a.z.md".toList ".z.md".toList .standard ⟨none, false⟩
      (Runner.cached Toolchain.scripted (Keeping.directory "cache".toList).cache)
      programSession).1.map DocumentReport.content = .ok programPage := by
    decide +kernel
  have hfile : (process "a.z.md".toList ".z.md".toList .standard ⟨none, false⟩
      (Runner.cached Toolchain.scripted (Keeping.directory "cache".toList).cache)
      programSession).2.world.disk.isFile "a.md".toList = true := by
    decide +kernel
  have hname : targetPath "a.z.md".toList ".z.md".toList ⟨none, false⟩ = .ok "a.md".toList := by
    decide +kernel
  have hpage : programSession.world.disk.locationOf "a.md".toList
      = ["a.md".toList, "w".toList] := by
    decide +kernel
  have hcache : programSession.world.disk.locationOf "cache".toList
      = ["cache".toList, "w".toList] := by
    decide +kernel
  obtain ⟨-, -, hok⟩ := process_allOrNothing hleaves (.directory "cache".toList) "a.z.md".toList
    ".z.md".toList .standard ⟨none, false⟩ programSession
  rcases hran : process "a.z.md".toList ".z.md".toList .standard ⟨none, false⟩
      (Runner.cached Toolchain.scripted (Keeping.directory "cache".toList).cache)
      programSession with ⟨failure | report, after⟩
  · rw [hran] at hcontent
    cases hcontent
  · rw [hran] at hcontent hfile
    obtain ⟨-, htarget, hreported, -, hwritten⟩ := hok report after hran
    obtain ⟨hothers, hstat⟩ := hwritten rfl
    have houtput : report.output = "a.md".toList := Except.ok.inj (htarget.symm.trans hname)
    rw [houtput, hpage] at hothers
    refine ⟨hleaves, report, after, rfl, houtput, Except.ok.inj hcontent, hreported, ?_, ?_⟩
    · rcases hstat with hstat | ⟨hsink, -⟩
      · exact hstat
      · have hfile : after.world.disk.isFile "a.md".toList = true := hfile
        rw [houtput] at hsink
        rw [Disk.isFile, hsink] at hfile
        cases hfile
    · refine hothers.mono fun l hl => hl.imp ?_ id
      rintro ⟨name, hl⟩
      exact ⟨name, by rw [hl, ← hcache]⟩

/-- A working directory with a source of one line. -/
def lineDisk : Disk :=
  (Disk.blank ["w".toList]).plantAt "a.z.md".toList (.file (Text.encode "hello\n".toList))

/-- A page that is written to a device is reported as written, but it is not there. -/
theorem process_toDevice :
    let ran := process "a.z.md".toList ".z.md".toList .standard ⟨some "/dev/null".toList, false⟩
      (Runner.cached Toolchain.scripted .memory) (.start (.ofDisk lineDisk (.ofResponses [])))
    ran.1.map DocumentReport.output = .ok "/dev/null".toList ∧
      ran.1.map DocumentReport.content = .ok "hello\n".toList ∧
      ran.1.map DocumentReport.written = .ok true ∧
      ran.2.world.disk.readText "/dev/null".toList = .ok [] := by
  decide +kernel

end Document

end Weave

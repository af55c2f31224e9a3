import Weave.Proofs.Checking
import Weave.Proofs.ConfigFiles
import Weave.Proofs.Processing
import Weave.Proofs.Retention

/-!
# Weave.Proofs.Repeating — a command line that is given again

A command line that has written a page leaves a disk on which nothing is left to be done. The
document and the configuration are as they were, every answer is known to the cache, and the page is
there; so the same command line renders the same page without a run, and writes what is there. For
this the page and the files of the cache must keep apart from what is read: `PageApart`, `CacheApart`.

1. **Writing again** changes nothing (`Disk.write_again`).
2. **Processing again**: a document whose answers are known needs no run (`process_replay`).
3. **What is read again** is not changed by rendering and writing a page: the document
   (`readText_rendering`), the answers (`knows_rendering`), the configuration (`load_rendering`).
4. **Command lines**: a job is `Settled` when its page was written (`Job.settled`); so is a command
   line, and comparing ends well as well (`command_again`), but not where the page or the cache are
   in the way (`command_again_stale`).
-/

namespace Weave

/-! ## Writing again -/

namespace Store

variable {α β : Type} [DecidableEq α]

theorem put_of_find? {key : α} {value : β} {entries : List (α × β)}
    (h : find? key entries = some value) : put key value entries = entries := by
  induction entries with
  | nil => cases h
  | cons entry entries ih =>
    rw [find?] at h
    rw [put]
    split at h
    · next hkey =>
      rw [if_pos hkey, ← hkey, ← Option.some.inj h]
    · next hkey => rw [if_neg hkey, ih h]

/-- A value that is there is put there without a change. -/
theorem insert_of_get? {store : Store α β} {key : α} {value : β} (h : store.get? key = some value) :
    store.insert key value = store := by
  cases store
  simp only [insert, put_of_find? h]

end Store

namespace Disk

variable {disk disk' : Disk}

theorem put_of_node? {location : Location} {node : Node} (hne : location ≠ [])
    (h : disk.node? location = some node) : disk.put location node = disk := by
  rw [node?, if_neg hne] at h
  rw [put, Store.insert_of_get? h]

/-- A place for a file stays one. -/
theorem Grows.filePlace {fresh scope : Location → Prop} (h : Grows fresh scope disk disk')
    {path : Text} {location : Location} (hplace : disk.filePlace path = .ok location) :
    disk'.filePlace path = .ok location := by
  obtain ⟨found, hfound, hplace⟩ := ok_of_bind hplace
  obtain ⟨_, hname, hfound⟩ := ok_of_bind hfound
  obtain ⟨parent, hwalk, hfound⟩ := ok_of_bind hfound
  obtain ⟨_, hdir, hfound⟩ := ok_of_bind hfound
  have horigin : disk'.origin path = disk.origin path := by rw [origin, origin, h.workDir]
  have hwalk' := walk_of_dirs h.dirs hwalk
  have hdir' := checkDir_eq_ok_iff.2 (h.dirs _ (checkDir_eq_ok_iff.1 hdir))
  have hfound' : disk'.place path = .ok found := by
    rw [place, hname, horigin]
    simp only [bind, Except.bind, hwalk', hdir']
    exact hfound
  rw [Disk.filePlace, hfound']
  exact hplace

/-- What was written is written again without a change. -/
theorem write_again {path : Text} {bytes : ByteArray} (h : disk.write path bytes = .ok disk') :
    disk'.write path bytes = .ok disk' := by
  have hgrown : Grows Nowhere (· = disk.locationOf path) disk disk' := grows_write h
  obtain ⟨-, hne, ⟨-, rfl⟩ | ⟨-, hput⟩⟩ := write_cases h
  · exact h
  · obtain ⟨location, hplace, -⟩ := ok_of_bind h
    have hfile : disk'.node? (disk.locationOf path) = some (.file bytes) := by
      rw [hput, node?_put disk _ _ hne, if_pos rfl]
    have hlocation := (locate_of_filePlace hplace).2.1
    rw [write, hgrown.filePlace hplace]
    simp only [bind, Except.bind, hlocation, hfile, put_of_node? hne hfile]
    rfl

end Disk

/-! ## Documents that are processed again -/

namespace Document

variable {σ τ : Type}

/-- A document whose answers are all known is processed without a run, and its page comes out as
before. -/
theorem process_replay {input suffix output source : Text} {options : Options} {target : Target}
    {first : Runner σ} {session : Session σ} {page : Page} {world : World τ}
    (later : Toolchain (World τ)) (cache : Cache (World τ))
    (hpage : (weave options first source session).result = .ok page)
    (hknown : ∀ call ∈ first.calls (asked options first source session) session, ∃ report,
      call.answer = .ok report ∧ cache.load call.key world = .ok (some report))
    (htarget : targetPath input suffix target = .ok output)
    (hread : world.disk.readText input = .ok source)
    (hwrite : writePage world.disk output page.content target = .ok world.disk) :
    ∃ report after, process input suffix options target (.cached later cache) (.start world)
        = (.ok report, after) ∧ after.world.disk = world.disk ∧ report.output = output ∧
      report.content = page.content ∧ report.stats.runs = 0 := by
  obtain ⟨hanswers, hsession⟩ := Runner.calls_replay later cache (.start world) hknown
  obtain ⟨hasked, hresult, -⟩ := weave_congr hanswers
  have hafter := session_weave options (.cached later cache) source (.start world)
  rw [hasked, hsession] at hafter
  have hresult := hresult.trans hpage
  obtain ⟨report, after, hran⟩ := (exists_report_iff input suffix options target
    (.cached later cache) (.start world)).2
    ⟨output, source, page, world.disk, htarget, hread, hresult, by rw [hafter]; exact hwrite⟩
  have hprocessed := processed input suffix options target (.cached later cache) (.start world)
  rw [hran] at hprocessed
  cases hprocessed with
  | done output' source' page' disk _ _ htarget' hread' hresult' hwrite' hreport hdisk =>
    obtain rfl : output = output' := Except.ok.inj (htarget.symm.trans htarget')
    obtain rfl : source = source' := Except.ok.inj (hread.symm.trans hread')
    obtain rfl : page = page' := Except.ok.inj (hresult.symm.trans hresult')
    rw [hafter] at hwrite' hreport
    obtain rfl : world.disk = disk := Except.ok.inj (hwrite.symm.trans hwrite')
    subst hreport
    exact ⟨_, after, hran, hdisk, rfl, rfl, rfl⟩

end Document

/-! ## What is read again -/

/-- The locations that are read for a page of a project: the document, the places of the
configuration, and the files of the cache. -/
inductive Project.Reads (project : Project) (input : Text) (disk : Disk) : Location → Prop where
  | document : Reads project input disk (disk.locationOf input)
  | config (candidate : Text) (h : candidate ∈ configCandidates) :
      Reads project input disk (disk.locationOf (PathName.join project.root candidate))
  | report (location : Location) (h : DiskCache.Owns project.cacheDir disk location) :
      Reads project input disk location

/-- A page is written where nothing is that is read for it. -/
structure PageApart (project : Project) (input output : Text) (disk : Disk) : Prop where
  document : disk.locationOf output ≠ disk.locationOf input
  config : ∀ candidate ∈ Project.configCandidates,
    disk.locationOf output ≠ disk.locationOf (PathName.join project.root candidate)
  report : ∀ request, disk.locationOf output
    ≠ disk.locationOf (DiskCache.entryFile project.cacheDir (.ofRequest request))

/-- The cache writes nothing over the document, and finds it if the document has the name of a
report. No device stands where reports are written. -/
structure CacheApart (project : Project) (input : Text) (disk : Disk) : Prop where
  temp : ∀ request stamp, disk.locationOf input
    ≠ disk.locationOf (DiskCache.tempPath project.cacheDir (.ofRequest request) stamp)
  report : ∀ request, disk.locationOf input
      = disk.locationOf (DiskCache.entryFile project.cacheDir (.ofRequest request)) →
    disk.pathExists (DiskCache.entryFile project.cacheDir (.ofRequest request)) = true
  clear : DiskCache.Clear project.cacheDir disk

/-- How a document of a project is rendered with its cache. -/
def Project.rendering (project : Project) (programs : Programs) (source : Text) (disk : Disk) :
    Weaving (World Unit) :=
  weave project.config.options
    (.cached (.process programs project.config.toolchain project.root) (.disk project.cacheDir))
    source (.start (.ofDisk disk ()))

section

variable {programs : Programs} {project : Project} {input output source : Text}
  {disk after : Disk} {page : Page}

theorem Project.spares_rendering
    (hspares : programs.Spares project.config.toolchain.program (project.Reads input disk)) :
    (Toolchain.process programs project.config.toolchain project.root
        : Toolchain (World Unit)).Spares (project.Reads input disk) ∧
      DiskCache.SparedFrom project.cacheDir disk.workDir (project.Reads input disk) :=
  ⟨Toolchain.process_spares hspares project.root,
    fun _ hworkDir l howns => .report l (howns.congr hworkDir)⟩

theorem Project.grows_rendering
    (hspares : programs.Spares project.config.toolchain.program (project.Reads input disk))
    (source : Text) :
    disk.Grows Disk.Anywhere
      (fun l => ¬ project.Reads input disk l ∨ DiskCache.Owns project.cacheDir disk l)
      (project.rendering programs source disk).session.world.disk :=
  grows_weave (Project.spares_rendering hspares).1 project.cacheDir project.config.options source
    (.start (.ofDisk disk ()))

/-- The document is not changed while its page is rendered and written. -/
theorem Project.readText_rendering
    (hspares : programs.Spares project.config.toolchain.program (project.Reads input disk))
    (hpage : PageApart project input output disk) (hcache : CacheApart project input disk)
    (hread : disk.readText input = .ok source)
    (hresult : (project.rendering programs source disk).result = .ok page)
    (hwrite : (project.rendering programs source disk).session.world.disk.writeText output
      page.content = .ok after) :
    after.readText input = .ok source := by
  have hgrown := Project.grows_rendering hspares source
  have hrendered : (project.rendering programs source disk).session.world.disk.readText input
      = .ok source := by
    by_cases howns : DiskCache.Owns project.cacheDir disk (disk.locationOf input)
    · generalize hlocation : disk.locationOf input = l at howns
      cases howns with
      | temp request stamp => exact absurd hlocation (hcache.temp request stamp)
      | entry request =>
        -- the document is a report, which is known and so is not written again
        obtain ⟨node, hstat, -⟩ := Disk.readText_eq_ok_iff.1 hread
        have hinput := (Disk.node?_of_stat hstat).1
        obtain ⟨found, hfound⟩ := exists_ok_of_isOk (hcache.report request hlocation)
        have hentry := (Disk.node?_of_stat hfound).1
        rw [← hlocation] at hentry
        have hload : DiskCache.load project.cacheDir (.ofRequest request) disk
            = .ok (some source) := by
          rw [DiskCache.load_eq_some_iff, Disk.readText_congr hentry hinput, hread]
        obtain ⟨htoolchain, hspared⟩ := Project.spares_rendering hspares
        have hknown := knows_weave htoolchain hspared hcache.clear hresult
        have hkept := hknown.2 request source hload
        rw [← Disk.readText_congr (hgrown.locate hentry) (hgrown.locate hinput)]
        exact DiskCache.load_eq_some_iff.1 hkept
    · exact hgrown.readText hread (not_or.2 ⟨not_not.2 .document, howns⟩)
  have hwritten : Disk.Grows Disk.Nowhere _ _ after := Disk.grows_write hwrite
  refine hwritten.readText hrendered ?_
  rw [Disk.locationOf_congr hgrown.workDir, Disk.locationOf_congr hgrown.workDir]
  exact hpage.document.symm

/-- What was answered for a page is known when the page is written. -/
theorem Project.knows_rendering
    (hspares : programs.Spares project.config.toolchain.program (project.Reads input disk))
    (hpage : PageApart project input output disk) (hcache : CacheApart project input disk)
    (hresult : (project.rendering programs source disk).result = .ok page)
    (hwrite : (project.rendering programs source disk).session.world.disk.writeText output
      page.content = .ok after) :
    let runner := Runner.cached
      (Toolchain.process programs project.config.toolchain project.root) (.disk project.cacheDir)
    let session := Session.start (World.ofDisk disk ())
    ∀ call ∈ runner.calls (asked project.config.options runner source session) session, ∃ report,
      call.answer = .ok report ∧
        (Cache.disk project.cacheDir).load call.key (World.ofDisk after ()) = .ok (some report) := by
  intro runner session call hcall
  obtain ⟨htoolchain, hspared⟩ := Project.spares_rendering hspares
  obtain ⟨report, hanswer, hload⟩ := (knows_weave htoolchain hspared hcache.clear hresult).1 call hcall
  have hgrown := Project.grows_rendering hspares source
  have hwritten : Disk.Grows Disk.Nowhere _ _ after := Disk.grows_write hwrite
  refine ⟨report, hanswer, Cache.load_disk_iff.2 (DiskCache.load_of_grows hwritten hload ?_)⟩
  rw [Disk.locationOf_congr hgrown.workDir, Disk.locationOf_congr hgrown.workDir]
  exact (hpage.report call.request).symm

/-- The project is configured as before when the page is written. Where it has no root directory no
request could be run, so that nothing else has changed. -/
theorem Project.load_rendering (htree : disk.IsTree)
    (hproject : Project.load disk project.root = .ok project)
    (hspares : programs.Spares project.config.toolchain.program (project.Reads input disk))
    (hpage : PageApart project input output disk)
    (hresult : (project.rendering programs source disk).result = .ok page)
    (hwrite : (project.rendering programs source disk).session.world.disk.writeText output
      page.content = .ok after) :
    Project.load after project.root = .ok project := by
  rw [← hproject]
  by_cases hroot : ∃ location, Process.startDir disk project.root = .ok location
  · obtain ⟨location, hstart⟩ := hroot
    have hgrown := Project.grows_rendering hspares source
    have hwritten : Disk.Grows Disk.Anywhere _ _ after := Disk.grows_write hwrite
    rw [Disk.locationOf_congr hgrown.workDir] at hwritten
    have hall : disk.Grows Disk.Anywhere
        (fun l => (¬ project.Reads input disk l ∨ DiskCache.Owns project.cacheDir disk l) ∨
          l = disk.locationOf output) after :=
      (hgrown.mono (fun _ => id) fun _ => .inl).trans
        (hwritten.mono (fun _ => id) fun _ => .inr)
    refine Project.load_of_grows htree hall hstart fun candidate hcandidate => ?_
    rintro ((hout | howns) | houtput)
    · exact hout (.config candidate hcandidate)
    · exact Project.not_owns_candidate hcandidate _ _ disk howns
    · exact hpage.config candidate hcandidate houtput.symm
  · -- nothing could be run, so that only the page was written
    have hroot := not_exists.1 hroot
    have hscratch : project.root = [] ∨ project.config.toolchain.scratchDir = none := by
      by_cases hne : project.root = []
      · exact .inl hne
      · have hstandard := Project.load_eq_standard hne hroot
        rw [hproject] at hstandard
        refine .inr ?_
        rw [Except.ok.inj hstandard]
        rfl
    have hsame : (project.rendering programs source disk).session.world = .ofDisk disk () :=
      world_weave_of_unrun (fun request output => Process.run_ne_ok hroot hscratch request output)
        hresult
    rw [hsame] at hwrite
    exact Project.load_of_write hwrite hpage.config

end

namespace CommandLine

/-! ## Jobs that are done again -/

/-- A job that writes its page, with the help of the cache and without waiting for changes. -/
structure Job.Writes (job : Job) : Prop where
  noCache : job.noCache = false
  dryRun : job.dryRun = false
  check : job.check = false
  watch : job.watch = false

/-- Whatever programs there are, a job renders its page without a run and leaves the disk as it
is. -/
def Job.Settled (job : Job) (root output content : Text) (disk : Disk) : Prop :=
  ∀ programs : Programs, ∃ report, job.render programs root disk = (.ok report, disk) ∧
    report.output = output ∧ report.content = content ∧ report.stats.runs = 0

section

variable {job : Job} {programs : Programs} {manner : Manner} {root : Text} {disk after : Disk}
  {project : Project}

/-- A job that ends with status 0 has rendered its document. -/
theorem Job.render_of_status (h : (job.run programs manner root disk).1.ending.status = 0) :
    ∃ report,
      job.render programs root disk = (.ok report, (job.run programs manner root disk).2) := by
  rcases hrender : job.render programs root disk with ⟨failure | report, after⟩
  · simp [run, once, hrender, failedBy, Ending.status] at h
  · refine ⟨report, ?_⟩
    simp only [run, once, hrender]
    split <;> rfl

/-- A job that writes its page and does not wait for changes is done when it was rendered. -/
theorem Job.run_of_writes {report : DocumentReport} (hjob : job.Writes)
    (hrender : job.render programs root disk = (.ok report, after)) :
    job.run programs manner root disk = (written manner root report, after) := by
  simp [run, once, conclude, hrender, hjob.dryRun, hjob.check, hjob.watch]

theorem status_written (manner : Manner) (root : Text) (report : DocumentReport) :
    (written manner root report).ending.status = 0 :=
  rfl

/-- How a job is rendered with the cache of its project. -/
theorem Job.render_eq (hproject : Project.load disk root = .ok project)
    (henabled : project.config.cache.enabled = true) (hcached : job.noCache = false) :
    job.render programs root disk
      = Prod.map id (·.world.disk) (Document.process (PathName.join root job.input)
          project.config.sourceSuffix project.config.options (job.target root)
          (.cached (.process programs project.config.toolchain project.root)
            (.disk project.cacheDir))
          (.start (.ofDisk disk ()))) := by
  have hroot := Project.root_of_load hproject
  have hcache : (project.cache job.noCache : Cache (World Unit)) = .disk project.cacheDir := by
    simp [Project.cache, henabled, hcached]
  simp only [render, hproject, renderIn, Project.process, Project.runner, hcache, hroot]
  rfl

/-- A job that writes its page reads the document, renders it and writes what comes out. -/
theorem Job.render_cases {report : DocumentReport} (hjob : job.Writes)
    (hproject : Project.load disk root = .ok project)
    (henabled : project.config.cache.enabled = true)
    (hrender : job.render programs root disk = (.ok report, after)) :
    ∃ source page,
      Document.targetPath (PathName.join root job.input) project.config.sourceSuffix
        (job.target root) = .ok report.output ∧
      disk.readText (PathName.join root job.input) = .ok source ∧
      (project.rendering programs source disk).result = .ok page ∧
      (project.rendering programs source disk).session.world.disk.writeText report.output
        page.content = .ok after ∧
      report.content = page.content := by
  have hprocessed := Document.processed (PathName.join root job.input) project.config.sourceSuffix
    project.config.options (job.target root)
    (.cached (.process programs project.config.toolchain project.root) (.disk project.cacheDir))
    (.start (.ofDisk disk ()))
  rw [Job.render_eq hproject henabled hjob.noCache] at hrender
  generalize Document.process _ _ _ _ _ _ = ended at hprocessed hrender
  obtain ⟨result, session⟩ := ended
  obtain ⟨rfl, hafter⟩ := Prod.mk.inj hrender
  cases hprocessed with
  | done output source page written _ _ htarget hread hresult hwrite hreport hdisk =>
    have hwrites : (job.target root).dryRun = false := by simp [target, hjob.dryRun, hjob.check]
    obtain rfl : written = after := hdisk.symm.trans hafter
    subst hreport
    exact ⟨source, page, htarget, hread, hresult, Document.writePage_of_not_dryRun hwrites hwrite,
      rfl⟩

/-- A page that was written is what a comparison sees, unless it went to a device that forgets. -/
theorem currentPage_of_write {output content : Text}
    (hwrite : disk.writeText output content = .ok after) :
    currentPage after output = .ok content ↔ content = [] ∨ after.stat output ≠ .ok .sink := by
  rw [currentPage_eq_ok_iff]
  rcases Disk.stat_of_write hwrite with hfile | ⟨hsink, -⟩
  · simp [hfile]
  · simp [hsink]

/-- A job that compares ends with status 0 exactly if what it compares with is the page. -/
theorem Job.status_of_check {report : DocumentReport} (hcheck : job.check = true)
    (hwatch : job.watch = false)
    (hrender : job.render programs root disk = (.ok report, after)) :
    (job.run programs manner root disk).2 = after ∧
      ((job.run programs manner root disk).1.ending.status = 0 ↔
        currentPage after report.output = .ok report.content) := by
  rw [Job.run_of_check hcheck hwatch hrender, status_compare]
  refine ⟨rfl, ?_⟩
  split <;> simp [*]

theorem Plan.read_congr {colours : Bool} {arguments : List Text}
    (h : after.workDir = disk.workDir) :
    Plan.read colours arguments after = Plan.read colours arguments disk := by
  simp only [Plan.read, Disk.workPath, h]

/-- When a page was rendered and written, a job for the same document and the same page is
settled. -/
theorem Job.settled {input output source : Text} {page : Page} (htree : disk.IsTree)
    (hproject : Project.load disk root = .ok project)
    (henabled : project.config.cache.enabled = true)
    (hspares : programs.Spares project.config.toolchain.program (project.Reads input disk))
    (hpage : PageApart project input output disk) (hcache : CacheApart project input disk)
    (hread : disk.readText input = .ok source)
    (hresult : (project.rendering programs source disk).result = .ok page)
    (hwrite : (project.rendering programs source disk).session.world.disk.writeText output
      page.content = .ok after)
    (hcached : job.noCache = false) (hinput : PathName.join root job.input = input)
    (htarget : Document.targetPath input project.config.sourceSuffix (job.target root)
      = .ok output) :
    job.Settled root output page.content after := by
  intro later
  obtain rfl := Project.root_of_load hproject
  have hagain := Project.load_rendering htree hproject hspares hpage hresult hwrite
  have hreadAgain := Project.readText_rendering hspares hpage hcache hread hresult hwrite
  have hwriteAgain : Document.writePage after output page.content (job.target project.root)
      = .ok after := by
    unfold Document.writePage
    split
    · rfl
    · exact Disk.write_again hwrite
  obtain ⟨report, session, hran, hdisk, houtput, hcontent, hruns⟩ :=
    Document.process_replay (Toolchain.process later project.config.toolchain project.root)
      (.disk project.cacheDir) hresult
      (Project.knows_rendering hspares hpage hcache hresult hwrite) htarget hreadAgain hwriteAgain
  refine ⟨report, ?_, houtput, hcontent, hruns⟩
  rw [Job.render_eq hagain henabled hcached, hinput, hran]
  exact congrArg (Prod.mk _) hdisk

end

/-! ## Command lines that are given again -/

/-- After a command line has written a page, the page is up to date: whatever programs there are
then, comparing it and writing it again run nothing, render the same page and leave the disk as it
is. Writing ends well, and comparing ends well unless the page is not empty and went to a device
that forgets. For this the page and the files of the cache must not be in the way of what is read,
and the program that ran must not have changed what is read or removed a directory. -/
theorem command_again {programs : Programs} {colours : Bool} {arguments : List Text} {disk : Disk}
    {plan : Plan} {project : Project} {output : Text} (htree : disk.IsTree)
    (hplan : Plan.read colours arguments disk = .ok plan) (hjob : plan.job.Writes)
    (hproject : Project.load disk plan.root = .ok project)
    (henabled : project.config.cache.enabled = true)
    (houtput : Document.targetPath (PathName.join plan.root plan.job.input)
      project.config.sourceSuffix (plan.job.target plan.root) = .ok output)
    (hpage : PageApart project (PathName.join plan.root plan.job.input) output disk)
    (hcache : CacheApart project (PathName.join plan.root plan.job.input) disk)
    (hspares : programs.Spares project.config.toolchain.program
      (project.Reads (PathName.join plan.root plan.job.input) disk))
    (hstatus : (command programs colours arguments disk).1.ending.status = 0) :
    let after := (command programs colours arguments disk).2
    let checkingJob := { plan.job with check := true }
    ∃ report, plan.job.render programs plan.root disk = (.ok report, after) ∧
      checkingJob.Settled plan.root output report.content after ∧
      plan.job.Settled plan.root output report.content after ∧
      ∀ later : Programs,
        (∀ checking manner, Plan.read colours checking after = .ok ⟨checkingJob, manner, plan.root⟩ →
          let checked := command later colours checking after
          checked.2 = after ∧ (checked.1.ending.status = 0 ↔
            report.content = [] ∨ after.stat output ≠ .ok .sink)) ∧
        let again := command later colours arguments after
        again.2 = after ∧ again.1.ending.status = 0 := by
  intro after checkingJob
  have hran : command programs colours arguments disk
      = plan.job.run programs plan.manner plan.root disk := by
    simp only [command, hplan]
  obtain ⟨report, hrender⟩ : ∃ report,
      plan.job.render programs plan.root disk = (.ok report, after) := by
    simp only [after, hran] at hstatus ⊢
    exact Job.render_of_status hstatus
  obtain ⟨source, page, htarget, hread, hresult, hwrite, hcontent⟩ :=
    Job.render_cases hjob hproject henabled hrender
  rw [Except.ok.inj (htarget.symm.trans houtput)] at hwrite
  have hworkDir : after.workDir = disk.workDir :=
    (Disk.modifiesOnly_write hwrite).workDir.trans (Project.grows_rendering hspares source).workDir
  -- the job that compares and the job that writes again differ in what they do with the page only
  have hsettled : ∀ {job : Job}, job.noCache = false → job.input = plan.job.input →
      job.output = plan.job.output → job.Settled plan.root output report.content after := by
    intro job hnoCache hjobInput hjobOutput
    rw [hcontent]
    refine Job.settled htree hproject henabled hspares hpage hcache hread hresult hwrite hnoCache
      (by rw [hjobInput]) ?_
    rw [← houtput]
    simp only [Document.targetPath, Job.target, hjobOutput]
  have hchecking : checkingJob.Settled plan.root output report.content after :=
    hsettled hjob.noCache rfl rfl
  have hwriting : plan.job.Settled plan.root output report.content after :=
    hsettled hjob.noCache rfl rfl
  refine ⟨report, hrender, hchecking, hwriting, fun later => ⟨?_, ?_⟩⟩
  · intro checking manner hplanned checked
    obtain ⟨again, hagain, hagainOutput, hagainContent, -⟩ := hchecking later
    have hchecked : checked = checkingJob.run later manner plan.root after := by
      simp only [checked, command, hplanned]
    have hcheck : checkingJob.check = true := rfl
    have hwatch : checkingJob.watch = false := hjob.watch
    obtain ⟨hdisk, hzero⟩ := Job.status_of_check hcheck hwatch hagain
    rw [hchecked, hdisk, hzero, hagainOutput, hagainContent]
    rw [← hcontent] at hwrite
    exact ⟨rfl, currentPage_of_write hwrite⟩
  · obtain ⟨again, hagain, -⟩ := hwriting later
    have hplanned : Plan.read colours arguments after = .ok plan := by
      rw [Plan.read_congr hworkDir, hplan]
    have hcommand : command later colours arguments after
        = (written plan.manner plan.root again, after) := by
      simp only [command, hplanned]
      exact Job.run_of_writes hjob hagain
    rw [hcommand]
    exact ⟨rfl, status_written _ _ _⟩

/-- The program that prints one line, whatever it is given. -/
def printing : Programs :=
  fun _ _ disk => .ok ⟨Text.encode "x\n".toList, ByteArray.empty, .code 0, disk⟩

theorem printing_spares (program : Text) (spared : Location → Prop) :
    printing.Spares program spared := by
  intro args disk finished h
  obtain rfl := Except.ok.inj h
  exact .refl disk

/-- A command line that writes the page of a program next to its source. -/
def writingLine : List Text :=
  ["--path", "/w", "run", "a.z.md"].map String.toList

/-- What the command line asks for. -/
def writingPlan : Plan :=
  ⟨⟨"a.z.md".toList, none, false, false, false, false⟩, ⟨true, false⟩, "/w".toList⟩

/-- A project without a configuration. -/
def plainProject : Project :=
  ⟨"/w".toList, .standard, none⟩

/-- The page of a program is found to be up to date, and written again, when the program is
gone. -/
theorem command_again_program :
    let after := (command printing true writingLine Document.programDisk).2
    let checked := command noPrograms true (writingLine ++ ["--check".toList]) after
    let again := command noPrograms true writingLine after
    Document.programDisk.IsTree ∧
      (command printing true writingLine Document.programDisk).1.ending.status = 0 ∧
      checked.2 = after ∧ checked.1.ending.status = 0 ∧ again.2 = after ∧
      again.1.ending.status = 0 := by
  have htree : Document.programDisk.IsTree :=
    Disk.isTree_of_entries (by decide +kernel) (by decide +kernel)
  have hplan : Plan.read true writingLine Document.programDisk = .ok writingPlan := by
    decide +kernel
  have hproject : Project.load Document.programDisk writingPlan.root = .ok plainProject := by
    decide +kernel
  have houtput : Document.targetPath (PathName.join writingPlan.root writingPlan.job.input)
      plainProject.config.sourceSuffix (writingPlan.job.target writingPlan.root)
        = .ok "/w/a.md".toList := by
    decide +kernel
  have hdir : Document.programDisk.locationOf plainProject.cacheDir
      = ["cache".toList, ".zmd".toList, "w".toList] := by
    decide +kernel
  have hinput : Document.programDisk.locationOf
      (PathName.join writingPlan.root writingPlan.job.input) = ["a.z.md".toList, "w".toList] := by
    decide +kernel
  have hlocation : Document.programDisk.locationOf "/w/a.md".toList
      = ["a.md".toList, "w".toList] := by
    decide +kernel
  have hpage : PageApart plainProject (PathName.join writingPlan.root writingPlan.job.input)
      "/w/a.md".toList Document.programDisk := by
    refine ⟨by rw [hlocation, hinput]; decide, ?_, fun request => ?_⟩
    · rw [hlocation]
      decide +kernel
    · rw [hlocation, DiskCache.locationOf_entryFile, hdir]
      exact fun h => by simp at h
  have hcache : CacheApart plainProject (PathName.join writingPlan.root writingPlan.job.input)
      Document.programDisk := by
    refine ⟨fun request stamp => ?_, fun request h => ?_, fun request stamp h => ?_⟩
    · rw [hinput, DiskCache.locationOf_tempPath, hdir]
      exact fun h => by simp at h
    · rw [hinput, DiskCache.locationOf_entryFile, hdir] at h
      simp at h
    · rw [DiskCache.locationOf_tempPath, hdir] at h
      have habove := htree.around h
      revert habove
      decide +kernel
  have hran : (command printing true writingLine Document.programDisk).1.ending.status = 0 ∧
      (command printing true writingLine Document.programDisk).2.stat "/w/a.md".toList
        ≠ .ok .sink := by
    decide +kernel
  obtain ⟨report, -, -, -, hlater⟩ := command_again htree hplan ⟨rfl, rfl, rfl, rfl⟩ hproject rfl
    houtput hpage hcache (printing_spares _ _) hran.1
  obtain ⟨hchecking, hagain, hstatus⟩ := hlater noPrograms
  have hchecked : Plan.read true (writingLine ++ ["--check".toList])
      (command printing true writingLine Document.programDisk).2
      = .ok ⟨{ writingPlan.job with check := true }, ⟨true, false⟩, writingPlan.root⟩ := by
    decide +kernel
  obtain ⟨hsame, hzero⟩ := hchecking _ _ hchecked
  exact ⟨htree, hran.1, hsame, hzero.2 (.inr hran.2), hagain, hstatus⟩

theorem noPrograms_spares (program : Text) (spared : Location → Prop) :
    noPrograms.Spares program spared := by
  intro args disk finished h
  cases h

/-- A command line that writes a page out of the way of what is read, with a program that changes
nothing of it, and finds another page when it is asked to compare. -/
structure FoundStale (programs : Programs) (arguments : List Text) (disk : Disk) (plan : Plan)
    (project : Project) (output : Text) : Prop where
  tree : disk.IsTree
  planned : Plan.read false arguments disk = .ok plan
  writes : plan.job.Writes
  loaded : Project.load disk plan.root = .ok project
  enabled : project.config.cache.enabled = true
  target : Document.targetPath (PathName.join plan.root plan.job.input)
    project.config.sourceSuffix (plan.job.target plan.root) = .ok output
  apart : PageApart project (PathName.join plan.root plan.job.input) output disk
  spares : programs.Spares project.config.toolchain.program
    (project.Reads (PathName.join plan.root plan.job.input) disk)
  written : (command programs false arguments disk).1.ending.status = 0
  stale : (command programs false (arguments ++ ["--check".toList])
    (command programs false arguments disk).2).1.ending.status = 1

/-- A configuration with a cache that is reached through a directory that is missing. -/
def reportConfig : Text :=
  (["[toolchain]\n", "program = \"cat\"\n", "run_args = []\n", "[cache]\n",
    "dir = \"missing/../x\"\n"].map String.toList).flatten

/-- A document that has the name of the report of its own program, where the cache finds it only
after it has created that directory. -/
def reportDisk : Disk :=
  ((Disk.blank ["w".toList]).plantAt "zmd.toml".toList (.file (Text.encode reportConfig))).plantAt
    "x/610eac38567d136d.txt".toList (.file (Text.encode "```zig -singleFile\nx\n```\n".toList))

/-- What the page is rendered from and to. -/
def reportPlan : Plan :=
  ⟨⟨"x/610eac38567d136d.txt".toList, some "b.md".toList, false, false, false, false⟩,
    ⟨false, false⟩, "/w".toList⟩

/-- The project with this configuration. -/
def reportProject : Project :=
  ⟨"/w".toList,
    { Config.standard with
      toolchain := { ToolSettings.standard with program := "cat".toList, runArgs := [] }
      cache := ⟨"missing/../x".toList, true⟩ },
    some "/w/zmd.toml".toList⟩

/-- A page that goes to a device is not found there. A report that is written over the document
leaves another document. -/
theorem command_again_stale :
    FoundStale noPrograms (["run", "a.z.md", "--output", "/dev/null"].map String.toList)
      Document.lineDisk ⟨⟨"a.z.md".toList, some "/dev/null".toList, false, false, false, false⟩,
        ⟨false, false⟩, "/w".toList⟩ plainProject "/dev/null".toList ∧
    FoundStale printing
      (["run", "x/610eac38567d136d.txt", "--output", "b.md"].map String.toList) reportDisk
      reportPlan reportProject "/w/b.md".toList := by
  constructor
  · have hdevice : Document.lineDisk.locationOf "/dev/null".toList
        = ["null".toList, "dev".toList] := by
      decide +kernel
    have hdir : Document.lineDisk.locationOf plainProject.cacheDir
        = ["cache".toList, ".zmd".toList, "w".toList] := by
      decide +kernel
    refine ⟨Disk.isTree_of_entries (by decide +kernel) (by decide +kernel), by decide +kernel,
      ⟨rfl, rfl, rfl, rfl⟩, by decide +kernel, rfl, by decide +kernel, ⟨?_, ?_, fun request => ?_⟩,
      noPrograms_spares _ _, by decide +kernel, by decide +kernel⟩
    · rw [hdevice]
      decide +kernel
    · rw [hdevice]
      decide +kernel
    · rw [hdevice, DiskCache.locationOf_entryFile, hdir]
      exact fun h => by simp at h
  · have hpage : reportDisk.locationOf "/w/b.md".toList = ["b.md".toList, "w".toList] := by
      decide +kernel
    have hdir : reportDisk.locationOf reportProject.cacheDir = ["x".toList, "w".toList] := by
      decide +kernel
    refine ⟨Disk.isTree_of_entries (by decide +kernel) (by decide +kernel), by decide +kernel,
      ⟨rfl, rfl, rfl, rfl⟩, by decide +kernel, rfl, by decide +kernel, ⟨?_, ?_, fun request => ?_⟩,
      printing_spares _ _, by decide +kernel, by decide +kernel⟩
    · rw [hpage]
      decide +kernel
    · rw [hpage]
      decide +kernel
    · rw [hpage, DiskCache.locationOf_entryFile, hdir]
      exact fun h => by simp at h

end CommandLine

end Weave

import Weave.Proofs.Entries
import Weave.Proofs.Repeating
import Weave.Proofs.Unseen

/-!
# Weave.Proofs.ReadOnly — commands that compare or print a page

With `--check` or `--dry-run` a document is rendered as ever: the configuration is read, programs
are run on temporary files, and reports are kept. Only the page is not written.

1. **Documents** that are only rendered leave the disk as their pass does (`disk_of_dryRun`), and
   come out alike where their passes do (`process_simulates`).
2. **Jobs** (`Job.once_alike`): without a cache, and with a scope that nothing looks at, a job has
   the same outcome whatever is there.
3. **Command lines** (`command_readsOnly`): no file changes outside of the cache directory, what is
   new there are reports of runs that succeeded, and without a cache nothing changes at all. What is
   in the cache directory then makes a difference only to a command that looks at it
   (`command_readsEntry`).
-/

namespace Weave

/-! ## Documents -/

namespace Document

variable {τ : Type}

/-- A document that is only rendered leaves the disk as it was, or as the pass over its source
leaves it. -/
theorem disk_of_dryRun {input suffix : Text} {options : Options} {target : Target}
    {runner : Runner (World τ)} {session : Session (World τ)} (hdry : target.dryRun = true) :
    let after := (process input suffix options target runner session).2.world.disk
    after = session.world.disk ∨
      ∃ source, session.world.disk.readText input = .ok source ∧
        after = (weave options runner source session).session.world.disk := by
  intro after
  have hprocessed := processed input suffix options target runner session
  simp only [after]
  generalize process input suffix options target runner session = ran at hprocessed ⊢
  cases hprocessed with
  | unnamed failure htarget => exact .inl rfl
  | unread e hread => exact .inl rfl
  | unrendered source failure hread hresult => exact .inr ⟨source, hread, rfl⟩
  | unwritten output source page e htarget hread hresult hwrite => exact .inr ⟨source, hread, rfl⟩
  | done output source page disk report after htarget hread hresult hwrite hreport hafter =>
    exact .inr ⟨source, hread, hafter.trans (writePage_of_dryRun hdry hwrite)⟩

/-- The page of a document that succeeds goes where its name leads. -/
theorem targetPath_of_process {input suffix : Text} {options : Options} {target : Target}
    {runner : Runner (World τ)} {session : Session (World τ)} {report : DocumentReport}
    (h : (process input suffix options target runner session).1 = .ok report) :
    targetPath input suffix target = .ok report.output := by
  have hprocessed := processed input suffix options target runner session
  generalize process input suffix options target runner session = ran at hprocessed h
  cases hprocessed with
  | unnamed failure htarget => cases h
  | unread e hread => cases h
  | unrendered source failure hread hresult => cases h
  | unwritten output source page e htarget hread hresult hwrite => cases h
  | done output source page disk found after htarget hread hresult hwrite hreport hafter =>
    rw [← Except.ok.inj h, hreport]
    exact htarget

/-- A document that is only rendered comes out alike in worlds that its requests cannot tell
apart. -/
theorem process_simulates {related : World τ → World τ → Prop}
    {toolchain other : Toolchain (World τ)}
    {cache cache' : Cache (World τ)} {session session' : Session (World τ)}
    (htoolchain : toolchain.Simulates related other) (hcache : cache.Simulates related cache')
    (h : session.Related related session') {input : Text}
    (hread : session'.world.disk.readText input = session.world.disk.readText input)
    (suffix : Text) (options : Options) {target : Target} (hdry : target.dryRun = true) :
    let ran := process input suffix options target (Runner.cached toolchain cache) session
    let ran' := process input suffix options target (Runner.cached other cache') session'
    ran'.1 = ran.1 ∧ related ran.2.world ran'.2.world := by
  intro ran ran'
  simp only [ran, ran', process, hread]
  cases targetPath input suffix target with
  | error failure => exact ⟨rfl, h.world⟩
  | ok output =>
    cases session.world.disk.readText input with
    | error e => exact ⟨rfl, h.world⟩
    | ok source =>
      obtain ⟨hresult, -, hafter⟩ := simulates_weave htoolchain hcache h options source
      simp only [← hresult, writePage, hdry, if_true]
      cases (weave options (Runner.cached toolchain cache) source session).result with
      | error failure => exact ⟨rfl, hafter.world⟩
      | ok page => exact ⟨by simp only [h.stats, hafter.stats], hafter.world⟩

end Document

/-! ## Configurations -/

/-- A project is configured alike if the candidates are clear of the scope. -/
theorem Project.load_of_alike {scope : Location → Prop} {disk disk' : Disk} {root : Text}
    (h : disk.Alike scope disk')
    (hclear : ∀ candidate ∈ configCandidates, disk.ClearOf scope (PathName.join root candidate)) :
    load disk' root = load disk root :=
  load_congr fun candidate hcandidate bytes => by rw [h.stat (hclear candidate hcandidate)]

/-- A project without a cache asks the toolchain for everything. -/
theorem Project.cache_eq_none {τ : Type} {project : Project} {noCache : Bool}
    (h : noCache = true ∨ project.config.cache.enabled = false) :
    (project.cache noCache : Cache (World τ)) = .none := by
  rw [cache, if_pos]
  rcases h with h | h
  · simp [h]
  · simp [h]

namespace CommandLine

/-! ## Jobs -/

/-- A plan that compares or prints its page, and does not wait for changes. -/
structure Plan.ReadsOnly (plan : Plan) : Prop where
  dry : plan.job.check = true ∨ plan.job.dryRun = true
  once : plan.job.watch = false

/-- The paths that a plan goes along in a project: to the places of its configuration, to its
source, to the page that it compares, and to whatever the toolchain needs. -/
inductive Plan.Uses (plan : Plan) (project : Project) (disk : Disk) : Text → Prop where
  | config (candidate : Text) (hcandidate : candidate ∈ Project.configCandidates) :
      Uses plan project disk (PathName.join plan.root candidate)
  | source : Uses plan project disk (PathName.join plan.root plan.job.input)
  | page (output : Text) (hcheck : plan.job.check = true)
      (hname : Document.targetPath (PathName.join plan.root plan.job.input)
        project.config.sourceSuffix (plan.job.target plan.root) = .ok output) :
      Uses plan project disk output
  | tool (path : Text) (huses : Process.Uses project.config.toolchain plan.root disk path) :
      Uses plan project disk path

section

variable {programs : Programs} {disk disk' : Disk} {plan : Plan} {project : Project}

theorem Plan.ReadsOnly.target (h : plan.ReadsOnly) (root : Text) :
    (plan.job.target root).dryRun = true := by
  rcases h.dry with hcheck | hdry
  · simp [Job.target, hcheck]
  · simp [Job.target, hdry]

theorem Plan.ReadsOnly.run_eq (h : plan.ReadsOnly) (programs : Programs) (disk : Disk) :
    plan.job.run programs plan.manner plan.root disk
      = plan.job.once programs plan.manner plan.root disk := by
  simp [Job.run, h.once]

theorem Job.disk_once (job : Job) (programs : Programs) (manner : Manner) (root : Text)
    (disk : Disk) :
    (job.once programs manner root disk).2 = (job.render programs root disk).2 := by
  unfold once
  split
  · next hrender => rw [hrender]
  · next hrender => rw [hrender]

/-- A job renders its document in the project that is loaded. -/
theorem Job.render_of_load (job : Job) (programs : Programs) {root : Text}
    (hproject : Project.load disk root = .ok project) :
    job.render programs root disk
      = Prod.map id (·.world.disk) (Document.process (PathName.join root job.input)
          project.config.sourceSuffix project.config.options (job.target root)
          (project.runner programs job.noCache) (.start (.ofDisk disk ()))) := by
  simp only [render, hproject, renderIn, Project.process, Project.root_of_load hproject]
  rfl

/-- A file that a job leaves in the cache of a project: the report of a request that the document
asked, that the cache lacked, and that the toolchain ran with success. -/
def Job.Fills (job : Job) (programs : Programs) (root : Text) (project : Project) (disk : Disk)
    (location : Location) (bytes : ByteArray) : Prop :=
  let runner : Runner (World Unit) := project.runner programs job.noCache
  let session := Session.start (World.ofDisk disk ())
  ∃ source, disk.readText (PathName.join root job.input) = .ok source ∧
    ∃ call ∈ runner.calls (asked project.config.options runner source session) session,
      call.Fills (.process programs project.config.toolchain project.root)
        (project.cache job.noCache) project.cacheDir disk location bytes

section

variable {job : Job} {root : Text} (hdry : (job.target root).dryRun = true)
  (hproject : Project.load disk root = .ok project)
include hdry hproject

/-- A job that writes no page leaves the disk as it was, or as the pass over its source leaves
it. -/
theorem Job.disk_render :
    (job.render programs root disk).2 = disk ∨
      ∃ source, disk.readText (PathName.join root job.input) = .ok source ∧
        (job.render programs root disk).2
          = (weave project.config.options (project.runner programs job.noCache) source
              (Session.start (World.ofDisk disk ()))).session.world.disk := by
  rw [Job.render_of_load job programs hproject]
  exact Document.disk_of_dryRun hdry

variable (hleaves : programs.LeavesFiles project.config.toolchain.program)
include hleaves

/-- Without a cache a job that writes no page changes no file. -/
theorem Job.modifiesOnly_render
    (hcache : job.noCache = true ∨ project.config.cache.enabled = false) :
    disk.ModifiesOnly Disk.Nowhere (job.render programs root disk).2 := by
  have htoolchain : (Toolchain.process programs project.config.toolchain project.root :
      Toolchain (World Unit)).LeavesFiles :=
    Toolchain.process_leavesFiles hleaves project.root
  have hrunner : (project.runner programs job.noCache : Runner (World Unit)).StaysIn disk.workDir
      Disk.Nowhere := by
    rw [Project.runner, Project.cache_eq_none hcache]
    exact Runner.cached_staysIn (fun request world _ => htoolchain request world)
      (Cache.none_staysIn _ _)
  rcases Job.disk_render hdry hproject with hsame | ⟨source, -, hleft⟩
  · rw [hsame]
    exact .refl disk
  · rw [hleft]
    have hworkDir : (Session.start (World.ofDisk disk ())).world.disk.workDir = disk.workDir := rfl
    exact modifiesOnly_weave hrunner project.config.options source hworkDir

/-- With a cache it changes files in the cache directory alone, and adds the reports of what was
run. -/
theorem Job.adds_render (hcached : job.noCache = false)
    (henabled : project.config.cache.enabled = true) :
    disk.ModifiesOnly (Keeping.InDirectory (.directory project.cacheDir) disk)
        (job.render programs root disk).2 ∧
      disk.Adds (job.Fills programs root project disk) (job.render programs root disk).2 := by
  have htoolchain : (Toolchain.process programs project.config.toolchain project.root :
      Toolchain (World Unit)).LeavesFiles :=
    Toolchain.process_leavesFiles hleaves project.root
  have hcache : (project.cache job.noCache : Cache (World Unit)) = .disk project.cacheDir := by
    simp [Project.cache, henabled, hcached]
  have hrunner : (project.runner programs job.noCache : Runner (World Unit))
      = .cached (.process programs project.config.toolchain project.root)
        (.disk project.cacheDir) := by
    rw [Project.runner, hcache]
  have hstays : (project.runner programs job.noCache : Runner (World Unit)).StaysIn disk.workDir
      (Keeping.InDirectory (.directory project.cacheDir) disk) := by
    rw [Project.runner, hcache]
    exact Runner.cached_staysIn (fun request world _ => (htoolchain request world).of_nowhere)
      ((Keeping.directory project.cacheDir).cache_staysIn disk)
  rcases Job.disk_render hdry hproject with hsame | ⟨source, hread, hleft⟩
  · rw [hsame]
    exact ⟨.refl disk, (Disk.ModifiesOnly.refl disk).adds⟩
  · have hworkDir : (Session.start (World.ofDisk disk ())).world.disk.workDir = disk.workDir := rfl
    have hadded := adds_weave project.cacheDir htoolchain project.config.options source
      (Session.start (World.ofDisk disk ()))
    rw [← hrunner] at hadded
    rw [hleft]
    refine ⟨modifiesOnly_weave hstays project.config.options source hworkDir, hadded.mono ?_⟩
    rintro location bytes ⟨call, hcall, hfills⟩
    rw [← hcache] at hfills
    exact ⟨source, hread, call, hcall, hfills⟩

end

/-- A job whose page is rendered without a cache has the same outcome on disks that differ only
where nothing looks. -/
theorem Job.once_alike {scope : Location → Prop} (hreads : plan.ReadsOnly)
    (hproject : Project.load disk plan.root = .ok project)
    (hcache : plan.job.noCache = true ∨ project.config.cache.enabled = false)
    (hleaves : programs.LeavesFiles project.config.toolchain.program)
    (hignores : programs.Ignores project.config.toolchain.program scope)
    (hclear : ∀ path, plan.Uses project disk path → disk.ClearOf scope path)
    (h : disk.Alike scope disk') :
    (plan.job.once programs plan.manner plan.root disk').1
      = (plan.job.once programs plan.manner plan.root disk).1 := by
  have hproject' : Project.load disk' plan.root = .ok project := by
    rw [Project.load_of_alike h fun candidate hcandidate => hclear _ (.config candidate hcandidate),
      hproject]
  have hrunner : (project.runner programs plan.job.noCache : Runner (World Unit))
      = .cached (.process programs project.config.toolchain plan.root) .none := by
    rw [Project.runner, Project.cache_eq_none hcache, Project.root_of_load hproject]
  have hstart : (Session.start (World.ofDisk disk ())).Related
      (World.AlikeFrom disk.workDir scope) (.start (World.ofDisk disk' ())) :=
    ⟨⟨rfl, h⟩, rfl⟩
  have hran := Document.process_simulates
    (Toolchain.process_simulates disk hleaves hignores fun path huses =>
      hclear path (.tool path huses))
    (Cache.none_simulates disk.workDir scope) hstart (h.readText (hclear _ .source))
    project.config.sourceSuffix project.config.options (hreads.target plan.root)
  have hname := fun report => @Document.targetPath_of_process Unit
    (PathName.join plan.root plan.job.input) project.config.sourceSuffix project.config.options
    (plan.job.target plan.root)
    (.cached (.process programs project.config.toolchain plan.root) .none)
    (.start (.ofDisk disk ())) report
  unfold once
  rw [Job.render_of_load plan.job programs hproject, Job.render_of_load plan.job programs hproject',
    hrunner]
  generalize Document.process _ _ _ _ _ (.start (.ofDisk disk ())) = ran at hran hname
  generalize Document.process _ _ _ _ _ (.start (.ofDisk disk' ())) = ran' at hran
  obtain ⟨result, after⟩ := ran
  obtain ⟨result', after'⟩ := ran'
  obtain ⟨hresult, hworkDir, hafter⟩ := hran
  obtain rfl : result' = result := hresult
  cases result' with
  | error failure => rfl
  | ok report =>
    -- only a comparison looks at the disk once more, and it looks for the page alone
    simp only [Prod.map, id, conclude]
    split
    · next hcheck =>
      have hpage := hclear _ (.page report.output hcheck (hname report rfl))
      rw [compare, compare, currentPage, currentPage, hafter.readText (hpage.congr hworkDir)]
    · rfl

end

/-! ## Command lines -/

/-- A command line that is read, in a directory whose configuration can be read. -/
structure Begins (colours : Bool) (arguments : List Text) (disk : Disk) (plan : Plan)
    (project : Project) : Prop where
  planned : Plan.read colours arguments disk = .ok plan
  loaded : Project.load disk plan.root = .ok project

/-- A command that compares or prints a page, with a program that changes no file, leaves the disk
as it was if it cannot begin. However it ends otherwise, no regular file outside of the cache
directory is created, changed or removed, and every file in there that is new or has other bytes is
the entry of a request that was run with success. Without a cache no file is created, changed or
removed, and the outcome is the same whatever entries there are, if no path that the command goes
along leads to them or past them and the program does not look at them. -/
theorem command_readsOnly {programs : Programs} {colours : Bool} {arguments : List Text}
    {disk : Disk}
    (hreads : ∀ plan, Plan.read colours arguments disk = .ok plan → plan.ReadsOnly)
    (hleaves : ∀ plan project, Begins colours arguments disk plan project →
      programs.LeavesFiles project.config.toolchain.program) :
    let ran := command programs colours arguments disk
    ((∀ plan project, ¬ Begins colours arguments disk plan project) → ran.2 = disk) ∧
    ∀ plan project, Begins colours arguments disk plan project →
      disk.ModifiesOnly (Keeping.InDirectory (.directory project.cacheDir) disk) ran.2 ∧
      (∀ location bytes, ran.2.file? location = some bytes → disk.file? location ≠ some bytes →
        plan.job.Fills programs plan.root project disk location bytes) ∧
      (plan.job.noCache = true ∨ project.config.cache.enabled = false →
        disk.ModifiesOnly Disk.Nowhere ran.2 ∧
        let entries := DiskCache.IsEntry project.cacheDir disk
        (programs.Ignores project.config.toolchain.program entries →
          (∀ path, plan.Uses project disk path → disk.ClearOf entries path) →
          ∀ disk', disk.Alike entries disk' →
            (command programs colours arguments disk').1 = ran.1)) := by
  intro ran
  constructor
  · -- the command line or the configuration is in error, and nothing has been run yet
    intro hnever
    simp only [ran, command]
    cases hplan : Plan.read colours arguments disk with
    | error outcome => rfl
    | ok plan =>
      cases hproject : Project.load disk plan.root with
      | ok project => exact absurd ⟨hplan, hproject⟩ (hnever plan project)
      | error failure =>
        simp only [(hreads plan hplan).run_eq, Job.disk_once, Job.render, hproject]
  · rintro plan project ⟨hplan, hproject⟩
    have hreads := hreads plan hplan
    have hleaves := hleaves plan project ⟨hplan, hproject⟩
    have hran : ran = plan.job.once programs plan.manner plan.root disk := by
      simp only [ran, command, hplan, hreads.run_eq]
    have hleft : ran.2 = (plan.job.render programs plan.root disk).2 := by
      rw [hran, Job.disk_once]
    have hdry := hreads.target plan.root
    have hcacheless : plan.job.noCache = true ∨ project.config.cache.enabled = false →
        disk.ModifiesOnly Disk.Nowhere ran.2 := by
      intro hcache
      rw [hleft]
      exact Job.modifiesOnly_render hdry hproject hleaves hcache
    have hrendered :
        disk.ModifiesOnly (Keeping.InDirectory (.directory project.cacheDir) disk) ran.2 ∧
        disk.Adds (plan.job.Fills programs plan.root project disk) ran.2 := by
      -- without a cache there is nothing that could be new
      by_cases hcache : plan.job.noCache = true ∨ project.config.cache.enabled = false
      · exact ⟨(hcacheless hcache).of_nowhere, (hcacheless hcache).adds⟩
      · rw [not_or, Bool.not_eq_true, Bool.not_eq_false] at hcache
        rw [hleft]
        exact Job.adds_render hdry hproject hleaves hcache.1 hcache.2
    refine ⟨hrendered.1, fun location bytes hfile hnew =>
      (hrendered.2 location bytes hfile).resolve_left hnew, fun hcache => ⟨hcacheless hcache, ?_⟩⟩
    intro entries hignores hclear disk' halike
    have hplan' : Plan.read colours arguments disk' = .ok plan := by
      rw [Plan.read_congr halike.workDir, hplan]
    have hran' : command programs colours arguments disk'
        = plan.job.once programs plan.manner plan.root disk' := by
      simp only [command, hplan', hreads.run_eq]
    rw [hran, hran']
    exact Job.once_alike hreads hproject hcache hleaves hignores hclear halike

/-! ### A program that is run and kept, or run and forgotten -/

theorem printing_leavesFiles (program : Text) : printing.LeavesFiles program := by
  intro args disk finished h
  obtain rfl := Except.ok.inj h
  exact ⟨.refl disk, fun _ _ _ hstat => hstat⟩

theorem printing_ignores (program : Text) (scope : Location → Prop) :
    printing.Ignores program scope :=
  fun _ _ _ halike => .ok ⟨rfl, rfl, rfl, halike⟩

/-- A command line that prints the page of a program. -/
def dryLine : List Text :=
  ["--path", "/w", "run", "a.z.md", "--dry-run"].map String.toList

/-- What the command line asks for, with a cache or without one. -/
def dryPlan (noCache : Bool) : Plan :=
  ⟨⟨"a.z.md".toList, none, noCache, true, false, false⟩, ⟨true, false⟩, "/w".toList⟩

/-- The file for the report of the program. -/
def reportFile : Text :=
  "/w/.zmd/cache/610eac38567d136d.txt".toList

/-- A working directory with the program, and a file for its report that holds some text. -/
def keptDisk (kept : Text) : Disk :=
  Document.programDisk.plantAt reportFile (.file (Text.encode kept))

/-- It is an entry of the cache, wherever the command is started. -/
theorem isEntry_reportFile (disk disk' : Disk) :
    DiskCache.IsEntry plainProject.cacheDir disk (disk'.locationOf reportFile) := by
  have hfile : DiskCache.entryFile plainProject.cacheDir (.ofRequest ⟨.run, "x\n".toList⟩)
      = reportFile := by
    decide +kernel
  have habsolute : PathName.isAbsolute reportFile = true := rfl
  refine ⟨⟨.run, "x\n".toList⟩, ?_⟩
  rw [hfile, Disk.locationOf, Disk.locationOf, Disk.origin, Disk.origin, habsolute, if_pos rfl,
    if_pos rfl]

/-- Two disks that have other texts for the report differ in an entry alone. -/
theorem alike_keptDisk (kept kept' : Text) :
    (keptDisk kept).Alike (DiskCache.IsEntry plainProject.cacheDir (keptDisk kept))
      (keptDisk kept') := by
  have hne : Document.programDisk.locationOf reportFile ≠ [] := by decide +kernel
  have hentry := isEntry_reportFile (keptDisk kept) Document.programDisk
  exact Disk.alike_put _ hne hentry _ _

/-- The entries lie deeper than anything that the command goes along. -/
theorem clearOf_dryPlan {path : Text} {kept : Text}
    (huses : (dryPlan true).Uses plainProject (keptDisk kept) path) :
    (keptDisk kept).ClearOf (DiskCache.IsEntry plainProject.cacheDir (keptDisk kept)) path := by
  have hshort : ∀ path, PathName.isAbsolute path = true → (Disk.moves path).length < 4 →
      (keptDisk kept).ClearOf (DiskCache.IsEntry plainProject.cacheDir (keptDisk kept)) path := by
    have hdir : (keptDisk kept).locationOf plainProject.cacheDir
        = ["cache".toList, ".zmd".toList, "w".toList] := rfl
    rintro path habsolute hmoves location ⟨request, rfl⟩ hcrosses
    have hdeep := Disk.length_le_of_crosses hcrosses
    rw [DiskCache.locationOf_entryFile, hdir, Disk.origin, if_pos habsolute] at hdeep
    simp only [List.length_cons, List.length_nil] at hdeep
    omega
  cases huses with
  | config candidate hcandidate =>
    have hall : ∀ candidate ∈ Project.configCandidates,
        PathName.isAbsolute (PathName.join "/w".toList candidate) = true ∧
          (Disk.moves (PathName.join "/w".toList candidate)).length < 4 := by
      decide +kernel
    exact hshort _ (hall candidate hcandidate).1 (hall candidate hcandidate).2
  | source => exact hshort _ (by decide +kernel) (by decide +kernel)
  | page output hcheck hname => cases hcheck
  | tool path huses =>
    cases huses with
    | root => exact hshort _ (by decide +kernel) (by decide +kernel)
    | scratch dir hdir => cases hdir
    | source number =>
      have hname : PathName.IsName
          (Process.tempName plainProject.config.toolchain.extension number) :=
        Process.isName_tempName (by decide) number
      have htemp : Process.absolute (keptDisk kept)
          (Process.sourceDir plainProject.config.toolchain (dryPlan true).root) = "/tmp".toList :=
        rfl
      have hsteps : (Disk.steps "/tmp".toList).length = 1 := by decide +kernel
      rw [Process.sourceFile, htemp]
      refine hshort _ ?_ ?_
      · rfl
      · rw [Disk.moves_join hname, List.length_append, hsteps, List.length_singleton]
        omega

/-- With a cache, the report of the program is new and nothing else is. Without one nothing is, and
another text where the report would be makes no difference. -/
theorem command_readsOnly_program :
    let ran := command printing true dryLine Document.programDisk
    let line := dryLine ++ ["--no-cache".toList]
    let disk := keptDisk "old\n".toList
    let cacheless := command printing true line disk
    (Begins true dryLine Document.programDisk (dryPlan false) plainProject ∧
      ran.1.ending = .done ∧
      Document.programDisk.ModifiesOnly
        (Keeping.InDirectory (.directory plainProject.cacheDir) Document.programDisk) ran.2 ∧
      ∃ location bytes, ran.2.file? location = some bytes ∧
        Document.programDisk.file? location = none ∧
        (dryPlan false).job.Fills printing "/w".toList plainProject Document.programDisk location
          bytes) ∧
    (Begins true line disk (dryPlan true) plainProject ∧
      cacheless.1.ending = .done ∧ disk.ModifiesOnly Disk.Nowhere cacheless.2 ∧
      (command printing true line (keptDisk "new\n".toList)).1 = cacheless.1) := by
  constructor
  · have hplan : Plan.read true dryLine Document.programDisk = .ok (dryPlan false) := by
      decide +kernel
    have hproject : Project.load Document.programDisk (dryPlan false).root = .ok plainProject := by
      decide +kernel
    have hreads : ∀ plan, Plan.read true dryLine Document.programDisk = .ok plan →
        plan.ReadsOnly := by
      intro plan hread
      obtain rfl := Except.ok.inj (hplan.symm.trans hread)
      exact ⟨.inr rfl, rfl⟩
    have hran : (command printing true dryLine Document.programDisk).1.ending = .done ∧
        (command printing true dryLine Document.programDisk).2.isFile reportFile = true ∧
        Document.programDisk.node? (Document.programDisk.locationOf reportFile) = none := by
      decide +kernel
    obtain ⟨hdone, hfile, hnone⟩ := hran
    obtain ⟨-, hbegins⟩ := command_readsOnly hreads fun _ _ _ => printing_leavesFiles _
    obtain ⟨hmodified, hnew, -⟩ := hbegins _ _ ⟨hplan, hproject⟩
    obtain ⟨bytes, hstat⟩ := Project.isFile_iff.1 hfile
    have hnode := (Disk.node?_of_stat hstat).2
    rw [Disk.locationOf_congr hmodified.workDir] at hnode
    have hadded : (command printing true dryLine Document.programDisk).2.file?
        (Document.programDisk.locationOf reportFile) = some bytes := by
      rw [Disk.file?, hnode]
      rfl
    have hmissing :
        Document.programDisk.file? (Document.programDisk.locationOf reportFile) = none := by
      rw [Disk.file?, hnone]
      rfl
    exact ⟨⟨hplan, hproject⟩, hdone, hmodified, _, bytes, hadded, hmissing,
      hnew _ bytes hadded (by simp [hmissing])⟩
  · have hplan : Plan.read true (dryLine ++ ["--no-cache".toList]) (keptDisk "old\n".toList)
        = .ok (dryPlan true) := by
      decide +kernel
    have hproject : Project.load (keptDisk "old\n".toList) (dryPlan true).root
        = .ok plainProject := by
      decide +kernel
    have hreads : ∀ plan, Plan.read true (dryLine ++ ["--no-cache".toList])
        (keptDisk "old\n".toList) = .ok plan → plan.ReadsOnly := by
      intro plan hread
      obtain rfl := Except.ok.inj (hplan.symm.trans hread)
      exact ⟨.inr rfl, rfl⟩
    have hdone : (command printing true (dryLine ++ ["--no-cache".toList])
        (keptDisk "old\n".toList)).1.ending = .done := by
      decide +kernel
    obtain ⟨-, hbegins⟩ := command_readsOnly hreads fun _ _ _ => printing_leavesFiles _
    obtain ⟨-, -, hcacheless⟩ := hbegins _ _ ⟨hplan, hproject⟩
    obtain ⟨hmodified, hsame⟩ := hcacheless (.inl rfl)
    exact ⟨⟨hplan, hproject⟩, hdone, hmodified, hsame (printing_ignores _ _)
      (fun _ => clearOf_dryPlan) _ (alike_keptDisk _ _)⟩

theorem noPrograms_leavesFiles (program : Text) : noPrograms.LeavesFiles program := by
  intro args disk finished h
  cases h

/-- A command that prints the page of a document in the cache directory. -/
def entryLine : List Text :=
  ["run", ".zmd/cache/610eac38567d136d.txt", "--output", "b.md", "--no-cache", "--dry-run"].map
    String.toList

/-- What that command line asks for. -/
def entryPlan : Plan :=
  ⟨⟨".zmd/cache/610eac38567d136d.txt".toList, some "b.md".toList, true, true, false, false⟩,
    ⟨false, false⟩, "/w".toList⟩

/-- Without a cache an entry makes a difference all the same if it is the document. -/
theorem command_readsEntry :
    let first := keptDisk "old\n".toList
    let second := keptDisk "new\n".toList
    Begins false entryLine first entryPlan plainProject ∧ entryPlan.ReadsOnly ∧
      entryPlan.job.noCache = true ∧
      noPrograms.LeavesFiles plainProject.config.toolchain.program ∧
      first.Alike (DiskCache.IsEntry plainProject.cacheDir first) second ∧
      (command noPrograms false entryLine first).1.stdout = "old\n".toList ∧
      (command noPrograms false entryLine second).1.stdout = "new\n".toList := by
  have hplan : Plan.read false entryLine (keptDisk "old\n".toList) = .ok entryPlan := by
    decide +kernel
  have hproject : Project.load (keptDisk "old\n".toList) entryPlan.root = .ok plainProject := by
    decide +kernel
  refine ⟨⟨hplan, hproject⟩, ⟨.inr rfl, rfl⟩, rfl, noPrograms_leavesFiles _,
    alike_keptDisk _ _, ?_⟩
  decide +kernel

end CommandLine

end Weave

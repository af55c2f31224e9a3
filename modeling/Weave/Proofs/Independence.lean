import Mathlib.Data.Finset.Card
import Weave.Proofs.Crossing
import Weave.Proofs.Processing
import Weave.Proofs.Transparency

/-!
# Weave.Proofs.Independence — documents that share a memory

Documents that are processed one after the other in one session share its disk, its memory for
reports and its counters. If the answers of the toolchain are a function of the request, then none of
this tells a document what came before it: each of them comes out as it would alone, and in the end
the disk, the memory and the counters are what they are after any other order.

1. **Memory**: `Recalls` says what is remembered and counted after some requests, without their
   order. A request adds to it (`Recalls.request`), and so do all requests of a page.
2. **One document**: it does what it does alone, on a disk without the pages of the others
   (`Errand.process_alone`).
3. **Disk**: `Filed` says which pages are there after some documents, without their order.
4. **All documents**: `processAll_perm`.
-/

namespace Weave

variable {τ : Type}

/-! ## Toolchains and runners that do nothing but answer -/

/-- The toolchain creates, changes and removes nothing on the disk. -/
def Toolchain.LeavesTree (toolchain : Toolchain (World τ)) : Prop :=
  ∀ request (world : World τ),
    world.disk.AgreesOutside Disk.Nowhere (toolchain.execute request world).2.disk

namespace Runner

/-- The runner creates, changes and removes nothing on the disk. -/
def LeavesTree (runner : Runner (World τ)) : Prop :=
  ∀ request (session : Session (World τ)),
    session.world.disk.AgreesOutside Disk.Nowhere (runner request session).2.world.disk

/-- The runner that answers by a function of the request and does nothing else. -/
def answering {σ : Type} (answer : Request → Except Failure ToolOutput) : Runner σ :=
  fun request session => (reported answer request, session)

theorem memory_leavesTree {toolchain : Toolchain (World τ)} (htree : toolchain.LeavesTree) :
    (cached toolchain .memory).LeavesTree :=
  leads_cached (fun before after : World τ => before.disk.AgreesOutside Disk.Nowhere after.disk)
    (fun world => .refl world.disk) (fun h h' => h.trans h') htree
    (fun _ _ world => .refl world.disk)

theorem answering_leavesTree (answer : Request → Except Failure ToolOutput) :
    (answering answer : Runner (World τ)).LeavesTree :=
  fun _ session => .refl session.world.disk

theorem LeavesTree.afterAll {runner : Runner (World τ)} (hrunner : runner.LeavesTree)
    (requests : List Request) (session : Session (World τ)) :
    session.world.disk.AgreesOutside Disk.Nowhere
      (runner.afterAll requests session).world.disk :=
  leads_afterAll (fun before after : World τ => before.disk.AgreesOutside Disk.Nowhere after.disk)
    (fun world => .refl world.disk) (fun h h' => h.trans h') hrunner requests session

section

variable {σ : Type} (answer : Request → Except Failure ToolOutput) (requests : List Request)
  (session : Session σ)

theorem answers_answering :
    ((answering answer).calls requests session).map Call.answer = requests.map (reported answer) := by
  induction requests generalizing session with
  | nil => rfl
  | cons request requests ih => rw [calls, List.map_cons, List.map_cons, ih]; rfl

theorem afterAll_answering : (answering answer).afterAll requests session = session := by
  induction requests with
  | nil => rfl
  | cons request requests ih => exact ih

end

end Runner

/-! ## What is remembered after some requests -/

section

variable {answer : Request → Except Failure ToolOutput}

/-- Whether the toolchain answers a request with a report. -/
def Succeeds (answer : Request → Except Failure ToolOutput) (request : Request) : Bool :=
  (reported answer request).isOk

/-- How often the toolchain is asked if these requests are made, in whatever order: once for each
that succeeds, and each time that one fails. -/
def runsFor (answer : Request → Except Failure ToolOutput) (asked : List Request) : Nat :=
  (asked.filter (Succeeds answer)).toFinset.card + asked.countP fun request => !Succeeds answer request

theorem runsFor_perm {asked other : List Request} (h : asked.Perm other) :
    runsFor answer asked = runsFor answer other := by
  rw [runsFor, runsFor, h.countP_eq, List.toFinset_eq_of_perm _ _ (h.filter (Succeeds answer))]

/-- One more request. -/
theorem runsFor_concat (asked : List Request) (request : Request) :
    runsFor answer (asked ++ [request]) = runsFor answer asked
      + (!(Succeeds answer request && asked.contains request)).toNat := by
  unfold runsFor
  rw [List.filter_append, List.toFinset_append, List.countP_append]
  cases hsucceeds : Succeeds answer request with
  | false => simp [hsucceeds, Nat.add_assoc]
  | true =>
    by_cases hasked : request ∈ asked
    · simp [hsucceeds, hasked]
    · simp [hsucceeds, hasked]
      omega

/-- What is remembered and counted after some requests were made in a session that remembered
nothing at the start: the reports of those that succeed, and one run or one hit for each. -/
structure Recalls (answer : Request → Except Failure ToolOutput) (asked : List Request)
    (start session : Session (World τ)) : Prop where
  memory : ∀ key report, session.world.memory.get? key = some report ↔
    ∃ request ∈ asked, CacheKey.ofRequest request = key ∧ reported answer request = .ok report
  runs : session.stats.runs = start.stats.runs + runsFor answer asked
  total : session.stats.runs + session.stats.hits
    = start.stats.runs + start.stats.hits + asked.length

variable {toolchain : Toolchain (World τ)} {asked all : List Request}
  {start session : Session (World τ)}

theorem Recalls.nil {session : Session (World τ)} (hempty : session.world.memory = .empty) :
    Recalls answer [] session session where
  memory key report := by simp [hempty]
  runs := by simp [runsFor]
  total := by simp

/-- What is remembered is what the toolchain says. -/
theorem Recalls.faithful (h : Recalls answer asked start session) (hasked : asked ⊆ all)
    (hdistinct : ∀ request ∈ all, ∀ other ∈ all,
      CacheKey.ofRequest request = .ofRequest other → request = other) :
    Faithful answer all session.world.memory where
  distinct := hdistinct
  known request hrequest report hreport := by
    obtain ⟨other, hother, hkey, hreported⟩ := (h.memory _ _).1 hreport
    rw [hdistinct request hrequest other (hasked hother) hkey.symm]
    exact hreported

/-- One more request. It is run unless it is remembered, and if it succeeds it is remembered from
then on. -/
theorem Recalls.request (hmemory : toolchain.LeavesMemory) (hanswers : toolchain.Answers answer)
    (hdistinct : ∀ request ∈ all, ∀ other ∈ all,
      CacheKey.ofRequest request = .ofRequest other → request = other)
    (hasked : asked ⊆ all) {request : Request} (hrequest : request ∈ all)
    (h : Recalls answer asked start session) :
    Recalls answer (asked ++ [request]) start
      (Runner.cached toolchain .memory request session).2 := by
  have hfaithful := h.faithful hasked hdistinct
  have hanswer := answer_memory hanswers hfaithful hrequest
  have hruns := Runner.runs_cached toolchain .memory request session
  have hhits := Runner.hits_cached toolchain .memory request session
  have hreads := Cache.toNat_reads .memory (.ofRequest request) session.world
  -- a report is known exactly if the request was made before and has one
  have hlacks : Cache.memory.lacks (.ofRequest request) session.world
      = !(Succeeds answer request && asked.contains request) := by
    cases hknown : session.world.memory.get? (.ofRequest request) with
    | some report =>
      obtain ⟨other, hother, hkey, hreported⟩ := (h.memory _ _).1 hknown
      obtain rfl := hdistinct request hrequest other (hasked hother) hkey.symm
      simp [Cache.lacks, Cache.memory, hknown, Succeeds, hreported, hother, Except.isOk,
        Except.toBool]
    | none =>
      have hfresh : (Succeeds answer request && asked.contains request) = false := by
        rw [Bool.eq_false_iff, ne_eq, Bool.and_eq_true, List.contains_iff_mem]
        rintro ⟨hsucceeds, hmem⟩
        obtain ⟨report, hreported⟩ := exists_ok_of_isOk hsucceeds
        have hsome := (h.memory _ report).2 ⟨request, hmem, rfl, hreported⟩
        rw [hknown] at hsome
        cases hsome
      rw [hfresh]
      simp [Cache.lacks, Cache.memory, hknown]
  refine ⟨fun key report => ?_, ?_, ?_⟩
  · simp only [List.mem_append, List.mem_singleton, or_and_right, exists_or, exists_eq_left,
      ← h.memory]
    cases hreported : reported answer request with
    | error failure =>
      rw [get?_memory_of_error hmemory (hanswer.trans hreported)]
      simp
    | ok answered =>
      rw [get?_memory_of_ok hmemory (hanswer.trans hreported)]
      by_cases hkey : key = .ofRequest request
      · -- what was remembered under its key, if anything, is the same report
        have hknown : ∀ report, session.world.memory.get? key = some report → answered = report := by
          intro report hreport
          rw [hkey] at hreport
          have hsame := hfaithful.known request hrequest report hreport
          rw [hreported] at hsame
          exact Except.ok.inj hsame
        rw [if_pos hkey]
        simp only [Option.some.injEq, Except.ok.injEq, hkey.symm, true_and]
        exact ⟨.inr, fun hor => hor.elim (hknown report) id⟩
      · simp [hkey, Ne.symm hkey]
  · rw [hruns, hlacks, h.runs, runsFor_concat, Nat.add_assoc]
  · have hread : (Cache.memory.reads (.ofRequest request) session.world).toNat = 1 := rfl
    rw [List.length_append, List.length_singleton]
    have htotal := h.total
    omega

/-- All requests of a page. -/
theorem Recalls.afterAll (hmemory : toolchain.LeavesMemory) (hanswers : toolchain.Answers answer)
    (hdistinct : ∀ request ∈ all, ∀ other ∈ all,
      CacheKey.ofRequest request = .ofRequest other → request = other)
    {requests : List Request} (hasked : asked ++ requests ⊆ all)
    (h : Recalls answer asked start session) :
    Recalls answer (asked ++ requests) start
      ((Runner.cached toolchain .memory).afterAll requests session) := by
  induction requests generalizing asked session with
  | nil =>
    rw [List.append_nil]
    exact h
  | cons request requests ih =>
    rw [List.append_cons] at hasked ⊢
    have hbefore : asked ++ [request] ⊆ all :=
      List.Subset.trans (List.subset_append_left _ _) hasked
    have habove : asked ⊆ all := List.Subset.trans (List.subset_append_left _ _) hbefore
    exact ih hasked (h.request hmemory hanswers hdistinct habove (hbefore (by simp)))

/-- The order in which they were made is forgotten. -/
theorem Recalls.perm {other : List Request} (h : Recalls answer asked start session)
    (hperm : asked.Perm other) : Recalls answer other start session where
  memory key report := by
    rw [h.memory]
    exact exists_congr fun request => and_congr_left' hperm.mem_iff
  runs := by rw [h.runs, runsFor_perm hperm]
  total := by rw [h.total, hperm.length_eq]

/-- So sessions that recall the same remember the same and have counted the same. -/
theorem Recalls.unique {session' : Session (World τ)} (h : Recalls answer asked start session)
    (h' : Recalls answer asked start session') :
    (∀ key, session'.world.memory.get? key = session.world.memory.get? key) ∧
      session'.stats = session.stats := by
  refine ⟨fun key => Option.ext fun report => ?_, ?_⟩
  · rw [h.memory, h'.memory]
  · have hruns : session'.stats.runs = session.stats.runs := h'.runs.trans h.runs.symm
    have htotal := h'.total.trans h.total.symm
    have hhits : session'.stats.hits = session.stats.hits := by omega
    rcases hstats : session.stats with ⟨runs, hits⟩
    rcases hstats' : session'.stats with ⟨runs', hits'⟩
    rw [hstats, hstats'] at hruns hhits
    exact congrArg₂ Stats.mk hruns hhits

end

/-! ## One document -/

namespace Document

section

variable {input suffix output source : Text} {options : Options} {target : Target}
  {runner : Runner (World τ)} {session : Session (World τ)}

theorem process_unnamed {failure : Failure}
    (htarget : targetPath input suffix target = .error failure) :
    process input suffix options target runner session = (.error failure, session) := by
  simp only [process, htarget]

variable (htarget : targetPath input suffix target = .ok output)
include htarget

theorem process_unread {e : IoError} (hread : session.world.disk.readText input = .error e) :
    process input suffix options target runner session = (.error (.io e), session) := by
  simp only [process, htarget, hread]

variable (hread : session.world.disk.readText input = .ok source)
include hread

theorem process_unrendered {failure : Failure}
    (hresult : (weave options runner source session).result = .error failure) :
    process input suffix options target runner session
      = (.error failure, (weave options runner source session).session) := by
  simp only [process, htarget, hread, hresult]

variable {page : Page} (hresult : (weave options runner source session).result = .ok page)
include hresult

theorem process_unwritten {e : IoError}
    (hwrite : writePage (weave options runner source session).session.world.disk output
      page.content target = .error e) :
    process input suffix options target runner session
      = (.error (.io e), (weave options runner source session).session) := by
  simp only [process, htarget, hread, hresult, hwrite]

theorem process_done {disk : Disk}
    (hwrite : writePage (weave options runner source session).session.world.disk output
      page.content target = .ok disk) :
    process input suffix options target runner session
      = (.ok ⟨input, output, page.content, page.managedBlocks,
            (weave options runner source session).session.stats.since session.stats, !target.dryRun⟩,
          ⟨{ (weave options runner source session).session.world with disk := disk },
            (weave options runner source session).session.stats⟩) := by
  simp only [process, htarget, hread, hresult, hwrite]

end

end Document

/-- What is asked for a document: its source and the suffix of its name, how it is rendered, and
where its page goes. -/
structure Errand where
  input : Text
  suffix : Text
  options : Options
  target : Target

/-- What became of a document, without what was counted for it. -/
def DocumentReport.uncounted (report : DocumentReport) : DocumentReport :=
  { report with stats := .zero }

namespace Errand

/-- Renders the document and writes its page. -/
def process (errand : Errand) (runner : Runner (World τ)) (session : Session (World τ)) :
    Except Failure DocumentReport × Session (World τ) :=
  Document.process errand.input errand.suffix errand.options errand.target runner session

/-- The path that the page is written to, if it is written. -/
def written (errand : Errand) : List Text :=
  if errand.target.dryRun then []
  else (Document.targetPath errand.input errand.suffix errand.target).toOption.toList

/-- The paths that are read and written. -/
def used (errand : Errand) : List Text :=
  errand.input :: errand.written

/-- Where the page is written. -/
def Places (errand : Errand) (disk : Disk) (location : Location) : Prop :=
  ∃ output ∈ errand.written, location = disk.locationOf output

/-- The page of a document stands in no way that another one goes. -/
def Spares (errand : Errand) (disk : Disk) (other : Errand) : Prop :=
  ∀ output ∈ errand.written, ∀ path ∈ other.used, ¬ disk.Crosses path (disk.locationOf output)

theorem Spares.clearOf {errand other : Errand} {disk : Disk} (h : errand.Spares disk other)
    {path : Text} (hpath : path ∈ other.used) : disk.ClearOf (errand.Places disk) path := by
  rintro l ⟨output, houtput, rfl⟩
  exact h output houtput path hpath

/-- The requests of a document, up to the first one that fails, if they are answered by a function
of the request. -/
def requests (errand : Errand) (answer : Request → Except Failure ToolOutput) (disk : Disk) :
    List Request :=
  match Document.targetPath errand.input errand.suffix errand.target, disk.readText errand.input with
  | .ok _, .ok source =>
    asked errand.options (Runner.answering answer) source (.start (World.ofDisk disk ()))
  | _, _ => []

/-- What becomes of a document on a disk of its own, with nothing remembered. -/
def alone (errand : Errand) (answer : Request → Except Failure ToolOutput) (disk : Disk) :
    Except Failure DocumentReport × Session (World Unit) :=
  errand.process (Runner.answering answer) (.start (.ofDisk disk ()))

/-- A document changes nothing on the disk but its page. -/
theorem agreesOutside_process {runner : Runner (World τ)} (hrunner : runner.LeavesTree)
    (errand : Errand) (session : Session (World τ)) :
    session.world.disk.AgreesOutside (errand.Places session.world.disk)
      (errand.process runner session).2.world.disk := by
  have hprocessed := Document.processed errand.input errand.suffix errand.options errand.target
    runner session
  change Document.Processed _ _ _ _ _ _ (errand.process runner session) at hprocessed
  have hrendered : ∀ source, session.world.disk.AgreesOutside (errand.Places session.world.disk)
      (weave errand.options runner source session).session.world.disk := by
    intro source
    rw [session_weave]
    exact (hrunner.afterAll _ session).mono fun _ => False.elim
  generalize errand.process runner session = ran at hprocessed ⊢
  cases hprocessed with
  | unnamed _ htarget => exact .refl _
  | unread e hread => exact .refl _
  | unrendered source _ hread hresult => exact hrendered source
  | unwritten output source page e htarget hread hresult hwrite => exact hrendered source
  | done output source page disk _ after htarget hread hresult hwrite hreport hafter =>
    subst hafter
    cases hdry : errand.target.dryRun with
    | true =>
      rw [Document.writePage_of_dryRun hdry hwrite]
      exact hrendered source
    | false =>
      have hwritten := Document.writePage_of_not_dryRun hdry hwrite
      have hplace : errand.Places session.world.disk (session.world.disk.locationOf output) :=
        ⟨output, by simp [written, hdry, htarget, Except.toOption], rfl⟩
      refine (hrendered source).trans ((Disk.agreesOutside_write hwritten).mono ?_)
      rintro l rfl
      rw [Disk.locationOf_congr (hrendered source).workDir]
      exact hplace

section

variable {toolchain : Toolchain (World τ)} {answer : Request → Except Failure ToolOutput}
  {all : List Request} {scope : Location → Prop} {disk : Disk} {session : Session (World τ)}

/-- What can be written on a disk can be written on one that differs where the path does not
lead. -/
theorem agreesOutside_writePage {disk' : Disk} (hagree : disk.AgreesOutside scope disk')
    {output content : Text} {target : Target}
    (hclear : target.dryRun = false → disk.ClearOf scope output) :
    (∀ e, Document.writePage disk output content target = .error e →
        Document.writePage disk' output content target = .error e) ∧
      ∀ written, Document.writePage disk output content target = .ok written →
        ∃ written', Document.writePage disk' output content target = .ok written' ∧
          written.AgreesOutside scope written' := by
  unfold Document.writePage
  cases hdry : target.dryRun with
  | true => exact ⟨fun _ => nofun, fun _ h => ⟨disk', rfl, Except.ok.inj h ▸ hagree⟩⟩
  | false => exact hagree.write (hclear hdry) (Text.encode content)

/-- A page comes to what it comes to alone, if the memory is faithful to its requests, and these
requests leave the session. -/
theorem weave_alone {σ : Type} (hmemory : toolchain.LeavesMemory)
    (hanswers : toolchain.Answers answer) {options : Options} {source : Text} {start : Session σ}
    {requests : List Request}
    (hasked : requests = asked options (Runner.answering answer) source start)
    (hrequests : requests ⊆ all) (hfaithful : Faithful answer all session.world.memory) :
    let weaving := weave options (Runner.cached toolchain .memory) source session
    let alone := weave options (Runner.answering answer) source start
    weaving.result = alone.result ∧
      weaving.session = (Runner.cached toolchain .memory).afterAll requests session ∧
      alone.session = start := by
  have hanswered : ((Runner.cached toolchain .memory).calls requests session).map Call.answer
      = ((Runner.answering answer).calls requests start).map Call.answer := by
    rw [answers_memory hmemory hanswers hrequests hfaithful, Runner.answers_answering]
  rw [hasked] at hanswered ⊢
  obtain ⟨hsame, hresult, -⟩ := weave_congr hanswered
  exact ⟨hresult, by rw [session_weave, hsame], by rw [session_weave, Runner.afterAll_answering]⟩

/-- A document does what it does alone: on a disk that differs where it does not look, and with a
memory that is faithful to its requests, it comes to the same, and its page is the same. -/
theorem process_alone (hmemory : toolchain.LeavesMemory) (hanswers : toolchain.Answers answer)
    (htree : toolchain.LeavesTree) {errand : Errand}
    (hagree : disk.AgreesOutside scope session.world.disk)
    (hclear : ∀ path ∈ errand.used, disk.ClearOf scope path)
    (hrequests : errand.requests answer disk ⊆ all)
    (hfaithful : Faithful answer all session.world.memory) :
    let runner := Runner.cached toolchain .memory
    let ran := errand.process runner session
    let asked := runner.afterAll (errand.requests answer disk) session
    ran.1.map DocumentReport.uncounted = (errand.alone answer disk).1.map DocumentReport.uncounted ∧
      (errand.alone answer disk).2.world.disk.AgreesOutside scope ran.2.world.disk ∧
      ran.2 = ⟨{ asked.world with disk := ran.2.world.disk }, asked.stats⟩ := by
  intro runner ran asked
  -- both runs go the same way: what they read is the same, and both write their page or none does
  have hread := hagree.readText (hclear errand.input List.mem_cons_self)
  cases htarget : Document.targetPath errand.input errand.suffix errand.target with
  | error failure =>
    have hnone : errand.requests answer disk = [] := by simp only [requests, htarget]
    have hran : ran = (.error failure, session) := Document.process_unnamed htarget
    have halone : errand.alone answer disk = (.error failure, .start (.ofDisk disk ())) :=
      Document.process_unnamed htarget
    have hasked : asked = session := by simp only [asked, hnone, Runner.afterAll]
    rw [hran, halone, hasked]
    exact ⟨rfl, hagree, rfl⟩
  | ok output =>
    cases hsource : disk.readText errand.input with
    | error e =>
      have hnone : errand.requests answer disk = [] := by simp only [requests, htarget, hsource]
      have hunread : (Session.start (World.ofDisk disk ())).world.disk.readText errand.input
          = .error e := hsource
      have hran : ran = (.error (.io e), session) :=
        Document.process_unread htarget (hread.trans hsource)
      have halone : errand.alone answer disk = (.error (.io e), .start (.ofDisk disk ())) :=
        Document.process_unread htarget hunread
      have hasked : asked = session := by simp only [asked, hnone, Runner.afterAll]
      rw [hran, halone, hasked]
      exact ⟨rfl, hagree, rfl⟩
    | ok source =>
      have hmade : errand.requests answer disk = Weave.asked errand.options (Runner.answering answer)
          source (.start (World.ofDisk disk ())) := by simp only [requests, htarget, hsource]
      have hfound : (Session.start (World.ofDisk disk ())).world.disk.readText errand.input
          = .ok source := hsource
      obtain ⟨hresult, hsession, hstays⟩ := weave_alone hmemory hanswers hmade hrequests hfaithful
      have hbetween : disk.AgreesOutside scope asked.world.disk :=
        hagree.trans (((Runner.memory_leavesTree htree).afterAll _ session).mono fun _ => False.elim)
      cases hpage : (weave errand.options (Runner.answering answer) source
          (.start (World.ofDisk disk ()))).result with
      | error failure =>
        have hran : ran = (.error failure, _) :=
          Document.process_unrendered htarget (hread.trans hsource) (hresult.trans hpage)
        have halone : errand.alone answer disk = (.error failure, _) :=
          Document.process_unrendered htarget hfound hpage
        rw [hran, halone, hsession, hstays]
        exact ⟨rfl, hbetween, rfl⟩
      | ok page =>
        -- a dry run writes nothing, so it does not matter where its page would be
        have hclearOutput : errand.target.dryRun = false → disk.ClearOf scope output := by
          intro hdry
          exact hclear output (by simp [used, written, hdry, htarget, Except.toOption])
        obtain ⟨hfails, hwrites⟩ := agreesOutside_writePage hbetween hclearOutput
        cases hwrite : Document.writePage disk output page.content errand.target with
        | error e =>
          have hran : ran = (.error (.io e), _) :=
            Document.process_unwritten htarget (hread.trans hsource) (hresult.trans hpage)
              (by rw [hsession]; exact hfails e hwrite)
          have halone : errand.alone answer disk = (.error (.io e), _) :=
            Document.process_unwritten htarget hfound hpage (by rw [hstays]; exact hwrite)
          rw [hran, halone, hsession, hstays]
          exact ⟨rfl, hbetween, rfl⟩
        | ok written =>
          obtain ⟨written', hwrite', hagree'⟩ := hwrites written hwrite
          have hran : ran = (.ok _, _) :=
            Document.process_done htarget (hread.trans hsource) (hresult.trans hpage)
              (by rw [hsession]; exact hwrite')
          have halone : errand.alone answer disk = (.ok _, _) :=
            Document.process_done htarget hfound hpage (by rw [hstays]; exact hwrite)
          rw [hran, halone, hsession, hstays]
          exact ⟨rfl, hagree', rfl⟩

end

end Errand

/-! ## All documents -/

/-- Documents are processed one after the other in one session. -/
def processAll (runner : Runner (World τ)) :
    List Errand → Session (World τ) → List (Except Failure DocumentReport) × Session (World τ)
  | [], session => ([], session)
  | errand :: errands, session =>
    let ran := errand.process runner session
    let rest := processAll runner errands ran.2
    (ran.1 :: rest.1, rest.2)

/-- What some documents have left on a disk, said without their order: each of them its page as it
leaves it alone, and all of them together nothing else. -/
structure Filed (answer : Request → Except Failure ToolOutput) (errands : List Errand)
    (before after : Disk) : Prop where
  workDir : after.workDir = before.workDir
  changed : ∀ errand ∈ errands, ∀ location,
    (errand.alone answer before).2.world.disk.node? location ≠ before.node? location →
      after.node? location = (errand.alone answer before).2.world.disk.node? location
  kept : ∀ location,
    (∀ errand ∈ errands,
      (errand.alone answer before).2.world.disk.node? location = before.node? location) →
    after.node? location = before.node? location

/-- Two documents leave each other alone: the page of neither stands in a way that the other goes. -/
def Errand.Apart (disk : Disk) (errand other : Errand) : Prop :=
  errand.Spares disk other ∧ other.Spares disk errand

instance (disk : Disk) (errand other : Errand) : Decidable (errand.Apart disk other) :=
  inferInstanceAs (Decidable
    ((∀ output ∈ errand.written, ∀ path ∈ other.used,
        ¬ disk.Crosses path (disk.locationOf output)) ∧
      ∀ output ∈ other.written, ∀ path ∈ errand.used,
        ¬ disk.Crosses path (disk.locationOf output)))

namespace Filed

variable {answer : Request → Except Failure ToolOutput} {errands : List Errand}
  {before after : Disk}

theorem nil (disk : Disk) : Filed answer [] disk disk :=
  ⟨rfl, by simp, fun _ _ => rfl⟩

/-- Alone, a document changes nothing but its page. -/
theorem node?_alone (errand : Errand) (disk : Disk) {location : Location}
    (hout : ¬ errand.Places disk location) :
    (errand.alone answer disk).2.world.disk.node? location = disk.node? location :=
  (Errand.agreesOutside_process (Runner.answering_leavesTree answer) errand
    (.start (.ofDisk disk ()))).nodes location hout

theorem agreesOutside (h : Filed answer errands before after) :
    before.AgreesOutside (fun l => ∃ errand ∈ errands, errand.Places before l) after where
  workDir := h.workDir
  nodes location hout := h.kept location fun errand herrand =>
    node?_alone errand before fun hplaces => hout ⟨errand, herrand, hplaces⟩

/-- One more document, which is apart from the others. -/
theorem concat (h : Filed answer errands before after) {errand : Errand}
    (hapart : ∀ other ∈ errands, other.Apart before errand) {final : Disk}
    (hagree : (errand.alone answer before).2.world.disk.AgreesOutside
      (fun l => ∃ other ∈ errands, other.Places before l) final)
    (hkept : after.AgreesOutside (errand.Places before) final) :
    Filed answer (errands ++ [errand]) before final := by
  have hdisjoint : ∀ other ∈ errands, ∀ l, other.Places before l → ¬ errand.Places before l := by
    rintro other hother l hplaces ⟨output, houtput, rfl⟩
    exact (hapart other hother).1.clearOf (List.mem_cons_of_mem _ houtput) _ hplaces
      (before.crosses_locationOf output)
  have hfinal : ∀ l, (∃ other ∈ errands, other.Places before l) →
      final.node? l = after.node? l := by
    rintro l ⟨other, hother, hplaces⟩
    exact hkept.nodes l (hdisjoint other hother l hplaces)
  refine ⟨hkept.workDir.trans h.workDir, ?_, ?_⟩
  · intro other hother l hchanged
    rcases List.mem_append.1 hother with hother | hother
    · have hplaces : other.Places before l :=
        Classical.not_not.1 fun hout => hchanged (node?_alone other before hout)
      rw [hfinal l ⟨other, hother, hplaces⟩]
      exact h.changed other hother l hchanged
    · obtain rfl := List.mem_singleton.1 hother
      refine hagree.nodes l ?_
      rintro ⟨other', hother', hplaces⟩
      exact hchanged (node?_alone other before (hdisjoint other' hother' l hplaces))
  · intro l hsame
    by_cases hplaces : ∃ other ∈ errands, other.Places before l
    · rw [hfinal l hplaces]
      exact h.kept l fun other hother => hsame other (List.mem_append_left _ hother)
    · rw [hagree.nodes l hplaces]
      exact hsame errand (by simp)

/-- The disk is the same for all orders. -/
theorem unique {others : List Errand} {after' : Disk} (h : Filed answer errands before after)
    (h' : Filed answer others before after') (hsame : ∀ errand, errand ∈ others ↔ errand ∈ errands)
    (location : Location) : after'.node? location = after.node? location := by
  by_cases hkept : ∀ errand ∈ errands,
      (errand.alone answer before).2.world.disk.node? location = before.node? location
  · rw [h.kept location hkept,
      h'.kept location fun errand herrand => hkept errand ((hsame errand).1 herrand)]
  · push Not at hkept
    obtain ⟨errand, herrand, hchanged⟩ := hkept
    rw [h.changed errand herrand location hchanged,
      h'.changed errand ((hsame errand).2 herrand) location hchanged]

end Filed

section

variable {toolchain : Toolchain (World τ)} {answer : Request → Except Failure ToolOutput}
  {all : List Request} {start session : Session (World τ)}

/-- Documents that are processed below others come out as they do alone, and the session recalls and
files them with the others. -/
theorem processAll_after (hmemory : toolchain.LeavesMemory) (hanswers : toolchain.Answers answer)
    (htree : toolchain.LeavesTree)
    (hdistinct : ∀ request ∈ all, ∀ other ∈ all,
      CacheKey.ofRequest request = .ofRequest other → request = other)
    {earlier errands : List Errand}
    (hapart : (earlier ++ errands).Pairwise (Errand.Apart start.world.disk))
    (hrequests : (earlier ++ errands).flatMap (·.requests answer start.world.disk) ⊆ all)
    (hfiled : Filed answer earlier start.world.disk session.world.disk)
    (hrecalls : Recalls answer (earlier.flatMap (·.requests answer start.world.disk)) start
      session) :
    let ran := processAll (Runner.cached toolchain .memory) errands session
    ran.1.map (Except.map DocumentReport.uncounted)
        = errands.map (fun errand =>
            (errand.alone answer start.world.disk).1.map DocumentReport.uncounted) ∧
      Filed answer (earlier ++ errands) start.world.disk ran.2.world.disk ∧
      Recalls answer ((earlier ++ errands).flatMap (·.requests answer start.world.disk)) start
        ran.2 := by
  induction errands generalizing earlier session with
  | nil =>
    rw [List.append_nil]
    exact ⟨rfl, hfiled, hrecalls⟩
  | cons errand errands ih =>
    -- the errand finds other pages on the disk than at the start, and uses none of them
    have hapart' : ∀ other ∈ earlier, other.Apart start.world.disk errand := fun other hother =>
      (List.pairwise_append.1 hapart).2.2 other hother errand List.mem_cons_self
    rw [List.append_cons] at hapart hrequests ⊢
    have hbefore : (earlier ++ [errand]).flatMap (·.requests answer start.world.disk) ⊆ all := by
      rw [List.flatMap_append] at hrequests
      exact List.Subset.trans (List.subset_append_left _ _) hrequests
    rw [List.flatMap_append, List.flatMap_singleton] at hbefore
    have hasked := List.Subset.trans (List.subset_append_left _ _) hbefore
    have hagree := hfiled.agreesOutside
    have hclear : ∀ path ∈ errand.used, start.world.disk.ClearOf
        (fun l => ∃ other ∈ earlier, other.Places start.world.disk l) path := by
      rintro path hpath l ⟨other, hother, hplaces⟩
      exact (hapart' other hother).1.clearOf hpath l hplaces
    obtain ⟨hresult, hpage, hsession⟩ := Errand.process_alone hmemory hanswers htree hagree hclear
      (List.Subset.trans (List.subset_append_right _ _) hbefore)
      (hrecalls.faithful hasked hdistinct)
    have hrecalls' := hrecalls.afterAll hmemory hanswers hdistinct hbefore
    have hkept := Errand.agreesOutside_process (Runner.memory_leavesTree htree) errand session
    rw [processAll]
    generalize errand.process (Runner.cached toolchain .memory) session = ran
      at hresult hpage hsession hkept
    have hfiled' : Filed answer (earlier ++ [errand]) start.world.disk ran.2.world.disk := by
      refine hfiled.concat hapart' hpage (hkept.mono ?_)
      rintro l ⟨output, houtput, rfl⟩
      exact ⟨output, houtput, Disk.locationOf_congr hfiled.workDir output⟩
    have hrecalled : Recalls answer
        ((earlier ++ [errand]).flatMap (·.requests answer start.world.disk)) start ran.2 := by
      rw [List.flatMap_append, List.flatMap_singleton, hsession]
      exact ⟨hrecalls'.memory, hrecalls'.runs, hrecalls'.total⟩
    obtain ⟨hresults, hrest⟩ := ih hapart hrequests hfiled' hrecalled
    exact ⟨congrArg₂ List.cons hresult hresults, hrest⟩

/-- The toolchain counts its own runs, in whatever it has as its state. -/
def Toolchain.CountedBy (toolchain : Toolchain (World τ)) (count : τ → Nat) : Prop :=
  ∀ request world, count (toolchain.execute request world).2.tool = count world.tool + 1

/-- Between two sessions a toolchain has counted as many runs as the session. -/
def Session.CountsWith (count : τ → Nat) (before after : Session (World τ)) : Prop :=
  count after.world.tool + before.stats.runs = count before.world.tool + after.stats.runs

theorem Session.CountsWith.trans {count : τ → Nat} {first second third : Session (World τ)}
    (h : CountsWith count first second) (h' : CountsWith count second third) :
    CountsWith count first third := by
  unfold CountsWith at *
  omega

variable {count : τ → Nat}

theorem countsWith_cached (hcount : toolchain.CountedBy count) (request : Request)
    (session : Session (World τ)) :
    session.CountsWith count (Runner.cached toolchain .memory request session).2 := by
  have hserved := Runner.served toolchain .memory request session
  have hran := hcount request session.world
  generalize Runner.cached toolchain .memory request session = result at hserved ⊢
  unfold Session.CountsWith
  cases hserved with
  | unread failure hload => rfl
  | hit report hload => rfl
  | failed failure world hload hrun =>
    rw [hrun] at hran
    simp only [hran, Stats.countRun]
    omega
  | unstored output failure ran world hload hrun hstore => cases hstore
  | stored output ran world hload hrun hstore =>
    obtain ⟨-, rfl⟩ := Prod.mk.inj hstore
    rw [hrun] at hran
    simp only [hran, Stats.countRun]
    omega

theorem countsWith_afterAll (hcount : toolchain.CountedBy count) (requests : List Request)
    (session : Session (World τ)) :
    session.CountsWith count ((Runner.cached toolchain .memory).afterAll requests session) := by
  induction requests generalizing session with
  | nil => rfl
  | cons request requests ih => exact (countsWith_cached hcount request session).trans (ih _)

/-- A document leaves the session that its requests leave, but for the disk. -/
theorem Errand.session_process (errand : Errand) (runner : Runner (World τ))
    (session : Session (World τ)) :
    ∃ requests disk, (errand.process runner session).2
      = ⟨{ (runner.afterAll requests session).world with disk := disk },
          (runner.afterAll requests session).stats⟩ := by
  unfold process Document.process
  split
  · exact ⟨[], session.world.disk, rfl⟩
  · split
    · exact ⟨[], session.world.disk, rfl⟩
    · next source hread =>
      refine ⟨asked errand.options runner source session, ?_⟩
      rw [← session_weave]
      simp only
      split
      · exact ⟨_, rfl⟩
      · split
        · exact ⟨_, rfl⟩
        · exact ⟨_, rfl⟩

theorem countsWith_processAll (hcount : toolchain.CountedBy count) (errands : List Errand)
    (session : Session (World τ)) :
    session.CountsWith count (processAll (Runner.cached toolchain .memory) errands session).2 := by
  induction errands generalizing session with
  | nil => rfl
  | cons errand errands ih =>
    obtain ⟨requests, disk, hsession⟩ :=
      errand.session_process (Runner.cached toolchain .memory) session
    have hfirst : session.CountsWith count
        (errand.process (Runner.cached toolchain .memory) session).2 := by
      rw [hsession]
      exact countsWith_afterAll hcount requests session
    exact hfirst.trans (ih _)

/-- Documents that share a session do not influence each other, if no page stands in a way that
another document goes. Whatever the order in which they are processed, and whichever of them fail,
each of them comes to what it comes to alone at the start; the pages are those that each leaves alone;
and in the end the disk, what is remembered and what was counted are the same, the runs that the
toolchain counts for itself included. -/
theorem processAll_perm (hmemory : toolchain.LeavesMemory) (hanswers : toolchain.Answers answer)
    (htree : toolchain.LeavesTree) (hempty : session.world.memory = .empty)
    {errands order : List Errand}
    (hdistinct : ∀ request ∈ errands.flatMap (·.requests answer session.world.disk),
      ∀ other ∈ errands.flatMap (·.requests answer session.world.disk),
        CacheKey.ofRequest request = .ofRequest other → request = other)
    (hapart : errands.Pairwise (Errand.Apart session.world.disk)) (horder : order.Perm errands) :
    let runner := Runner.cached toolchain .memory
    let alone := fun errand : Errand => errand.process runner session
    let first := processAll runner errands session
    let second := processAll runner order session
    first.1.map (Except.map DocumentReport.uncounted)
        = errands.map (fun errand => (alone errand).1.map DocumentReport.uncounted) ∧
      second.1.map (Except.map DocumentReport.uncounted)
        = order.map (fun errand => (alone errand).1.map DocumentReport.uncounted) ∧
      (∀ errand ∈ errands, ∀ location,
        (alone errand).2.world.disk.node? location ≠ session.world.disk.node? location →
          first.2.world.disk.node? location = (alone errand).2.world.disk.node? location) ∧
      (∀ location, (∀ errand ∈ errands,
        (alone errand).2.world.disk.node? location = session.world.disk.node? location) →
          first.2.world.disk.node? location = session.world.disk.node? location) ∧
      second.2.world.disk.workDir = first.2.world.disk.workDir ∧
      (∀ location,
        second.2.world.disk.node? location = first.2.world.disk.node? location) ∧
      (∀ key, second.2.world.memory.get? key = first.2.world.memory.get? key) ∧
      second.2.stats = first.2.stats ∧
      ∀ count, toolchain.CountedBy count →
        count second.2.world.tool = count first.2.world.tool := by
  intro runner alone first second
  -- what a document does alone is a run in a disk that agrees everywhere with the one at the start
  have halone : ∀ errand ∈ errands,
      (alone errand).1.map DocumentReport.uncounted
          = (errand.alone answer session.world.disk).1.map DocumentReport.uncounted ∧
        ∀ location, (alone errand).2.world.disk.node? location
          = (errand.alone answer session.world.disk).2.world.disk.node? location := by
    intro errand herrand
    have hnowhere : ∀ path ∈ errand.used, session.world.disk.ClearOf Disk.Nowhere path :=
      fun _ _ _ => False.elim
    have hmade : errand.requests answer session.world.disk
        ⊆ errands.flatMap (·.requests answer session.world.disk) :=
      fun request hrequest => List.mem_flatMap.2 ⟨errand, herrand, hrequest⟩
    obtain ⟨hresult, hpage, -⟩ := Errand.process_alone hmemory hanswers htree (.refl _) hnowhere
      hmade ((Recalls.nil hempty).faithful (List.nil_subset _) hdistinct)
    exact ⟨hresult, fun location => hpage.nodes location not_false⟩
  -- both orders are runs from the same start, so both end in what these errands determine
  have hstart : Filed answer [] session.world.disk session.world.disk := .nil _
  have hnothing : Recalls answer ([].flatMap fun errand : Errand =>
      errand.requests answer session.world.disk) session session := .nil hempty
  obtain ⟨hresults, hfiled, hrecalls⟩ := processAll_after hmemory hanswers htree hdistinct
    (List.nil_append errands ▸ hapart) (List.Subset.refl _) hstart hnothing
  have horderApart : order.Pairwise (Errand.Apart session.world.disk) :=
    (horder.pairwise_iff fun h => h.symm).2 hapart
  have hperm : (order.flatMap (·.requests answer session.world.disk)).Perm
      (errands.flatMap (·.requests answer session.world.disk)) :=
    horder.flatMap_right _
  obtain ⟨hresults', hfiled', hrecalls'⟩ := processAll_after hmemory hanswers htree hdistinct
    (List.nil_append order ▸ horderApart) hperm.subset hstart hnothing
  rw [List.nil_append] at hfiled hrecalls hfiled' hrecalls'
  obtain ⟨hremembered, hstats⟩ := hrecalls.unique (hrecalls'.perm hperm)
  refine ⟨?_, ?_, ?_, ?_, ?_, ?_, ?_, hstats, ?_⟩
  · rw [hresults]
    exact List.map_congr_left fun errand herrand => (halone errand herrand).1.symm
  · rw [hresults']
    exact List.map_congr_left fun errand herrand =>
      (halone errand (horder.mem_iff.1 herrand)).1.symm
  · intro errand herrand location hchanged
    rw [(halone errand herrand).2] at hchanged ⊢
    exact hfiled.changed errand herrand location hchanged
  · intro location hsame
    refine hfiled.kept location fun errand herrand => ?_
    rw [← (halone errand herrand).2]
    exact hsame errand herrand
  · exact hfiled'.workDir.trans hfiled.workDir.symm
  · exact fun location => hfiled.unique hfiled' (fun _ => horder.mem_iff) location
  · exact hremembered
  · intro count hcount
    have hfirst : session.CountsWith count first.2 := countsWith_processAll hcount errands session
    have hsecond : session.CountsWith count second.2 := countsWith_processAll hcount order session
    have hruns : second.2.stats.runs = first.2.stats.runs := congrArg Stats.runs hstats
    unfold Session.CountsWith at hfirst hsecond
    omega

end

/-- A working directory with a source that collects a program and runs another one, and a source that
runs the same one and then asks for the collection. -/
def sharedDisk : Disk :=
  ((Disk.blank ["w".toList]).plantAt "a.z.md".toList (.file (Text.encode
    "```zig -collect_1\nc\n```\n```zig -singleFile\np\n```\n".toList))).plantAt "b.z.md".toList
      (.file (Text.encode "```zig -singleFile\np\n```\n```zig -execute_1\nd\n```\n".toList))

/-- The document that collects. -/
def collectingErrand : Errand :=
  ⟨"a.z.md".toList, ".z.md".toList, .standard, ⟨none, false⟩⟩

/-- The document that asks for what the other one has collected. -/
def askingErrand : Errand :=
  ⟨"b.z.md".toList, ".z.md".toList, .standard, ⟨none, false⟩⟩

/-- The session of both. -/
def sharedSession : Session (World Unit) :=
  .start (.ofDisk sharedDisk ())

/-- In both orders the collection is not there for the other document, and the program that both run
is run once. -/
theorem processAll_perm_shared :
    let runner := Runner.cached Toolchain.echo .memory
    let first := processAll runner [collectingErrand, askingErrand] sharedSession
    let second := processAll runner [askingErrand, collectingErrand] sharedSession
    (askingErrand.process runner sharedSession).1.map DocumentReport.uncounted
        = .error (.unresolvedCollection .run (.number 1) 4) ∧
      (first.1.map (Except.map DocumentReport.uncounted))[1]?
        = some (.error (.unresolvedCollection .run (.number 1) 4)) ∧
      (second.1.map (Except.map DocumentReport.uncounted))[0]?
        = some (.error (.unresolvedCollection .run (.number 1) 4)) ∧
      (∀ location, second.2.world.disk.node? location = first.2.world.disk.node? location) ∧
      first.2.stats = ⟨1, 1⟩ ∧ second.2.stats = ⟨1, 1⟩ := by
  intro runner first second
  have hmemory : Toolchain.echo.LeavesMemory := fun _ _ => rfl
  have hanswers : Toolchain.echo.Answers (fun request => .ok ⟨request.body, []⟩) := fun _ _ => rfl
  have htree : Toolchain.echo.LeavesTree := fun _ world => .refl world.disk
  have hrequests : [collectingErrand, askingErrand].flatMap
      (·.requests (fun request => .ok ⟨request.body, []⟩) sharedSession.world.disk)
      = [⟨.run, "p\n".toList⟩, ⟨.run, "p\n".toList⟩] := by decide +kernel
  have hapart : [collectingErrand, askingErrand].Pairwise
      (Errand.Apart sharedSession.world.disk) := by decide +kernel
  have hfails : (askingErrand.process runner sharedSession).1.map DocumentReport.uncounted
      = .error (.unresolvedCollection .run (.number 1) 4) := by decide +kernel
  have hstats : first.2.stats = ⟨1, 1⟩ := by decide +kernel
  obtain ⟨hresults, hresults', -, -, -, hnodes, -, hsame, -⟩ := processAll_perm hmemory hanswers
    htree rfl (by rw [hrequests]; simp) hapart (List.Perm.swap collectingErrand askingErrand [])
  simp only [first, second, runner] at hfails hstats ⊢
  rw [hsame, hresults, hresults']
  simp only [List.map_cons, List.getElem?_cons_succ, List.getElem?_cons_zero, hfails]
  exact ⟨trivial, trivial, trivial, hnodes, hstats, hstats⟩

end Weave

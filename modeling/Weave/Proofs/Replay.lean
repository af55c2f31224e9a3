import Weave.Proofs.Locations
import Weave.Proofs.OncePerKey
import Weave.Proofs.Requests
import Weave.Proofs.Transparency

/-!
# Weave.Proofs.Replay — a page that was rendered is rendered again from memory

A page is rendered once, by whatever toolchain. All of its requests were answered then, and every
answer is remembered under its key, for good. So a second pass that starts with this memory gives
every request the answer that it had, runs nothing, and renders the same page.

* `Runner.Remembers`, `knows_of_answered`: what was answered is known after the last call.
* `calls_replay`: calls whose answers are known.
* `weave_replay`: two passes over a page.
-/

namespace Weave

variable {σ τ υ : Type}

/-! ## All requests of a page that is rendered are answered -/

/-- Lines that are read without a failure have an answer to all that they ask. -/
theorem Loom.answered_of_feedAll {options : Options} {runner : Runner σ} {loom loom' : Loom}
    {index : Nat} {lines : List Text} {session after : Session σ}
    (h : loom.feedAll options runner index lines session = (.ok (), loom', after)) :
    ∀ call ∈ runner.calls (loom.asked options runner index lines session) session,
      ∃ report, call.answer = .ok report := by
  induction lines generalizing loom index session with
  | nil => simp [asked, Runner.calls]
  | cons line lines ih =>
    have hstep := session_feed options runner loom index line session
    rcases hfeed : loom.feed options runner index line session with ⟨failure | _, next, between⟩
    · simp [feedAll, hfeed] at h
    · have hasks := answered_feed options runner loom index line session hfeed
      rw [hfeed] at hstep
      rw [feedAll, hfeed] at h
      rw [asked_cons_of_ok hfeed, Runner.calls_append, ← hstep]
      intro call hcall
      rcases List.mem_append.1 hcall with hcall | hcall
      · exact hasks call hcall
      · exact ih h call hcall

/-- A page that is rendered has an answer to all that it asks. -/
theorem answered_of_weave {options : Options} {runner : Runner σ} {content : Text}
    {session : Session σ} {page : Page}
    (h : (weave options runner content session).result = .ok page) :
    ∀ call ∈ runner.calls (asked options runner content session) session,
      ∃ report, call.answer = .ok report := by
  rw [weave] at h
  rcases hfed : Loom.start.feedAll options runner 0 (Text.lines content) session
    with ⟨failure | _, loom, after⟩
  · simp [hfed] at h
  · exact Loom.answered_of_feedAll hfed

/-! ## What is known after calls -/

namespace Runner

/-- How a runner remembers. Its requests do not lead out of a kind of worlds, in which they keep what
is known under any key, and an answer is known afterwards under the key of its request. -/
structure Remembers (runner : Runner σ) (kind : σ → Prop) (knows : CacheKey → Text → σ → Prop) :
    Prop where
  stays : ∀ request session, kind session.world → kind (runner request session).2.world
  keeps : ∀ {k report} request session, kind session.world → knows k report session.world →
    knows k report (runner request session).2.world
  learns : ∀ {request session report}, kind session.world →
    (runner request session).1 = .ok report →
    knows (.ofRequest request) report (runner request session).2.world

section

variable {runner : Runner σ} {kind : σ → Prop} {knows : CacheKey → Text → σ → Prop}
  {requests : List Request} {session : Session σ}

/-- What is known at the start is known after all calls. -/
theorem knows_afterAll (hrunner : runner.Remembers kind knows) (requests : List Request)
    {session : Session σ} (hkind : kind session.world) {k : CacheKey} {report : Text}
    (hknown : knows k report session.world) :
    knows k report (runner.afterAll requests session).world := by
  induction requests generalizing session with
  | nil => exact hknown
  | cons request requests ih =>
    exact ih (hrunner.stays request session hkind) (hrunner.keeps request session hkind hknown)

/-- What was answered is known after all calls, whatever was asked in between. Another request may
have the same key: it had the same answer then. -/
theorem knows_of_answered (hrunner : runner.Remembers kind knows) (hkind : kind session.world) :
    ∀ call ∈ runner.calls requests session, ∀ report, call.answer = .ok report →
      knows call.key report (runner.afterAll requests session).world := by
  induction requests generalizing session with
  | nil => simp [calls]
  | cons request requests ih =>
    intro call hcall report hanswer
    have hnext := hrunner.stays request session hkind
    rcases List.mem_cons.1 hcall with rfl | hcall
    · exact knows_afterAll hrunner requests hnext (hrunner.learns hkind hanswer)
    · exact ih hnext call hcall report hanswer

end

variable {toolchain : Toolchain σ} {cache : Cache σ} {requests : List Request}
  {session : Session σ}

/-- A cache that keeps its entries remembers what can be loaded from it. -/
theorem remembers_cached (hcache : cache.Keeps toolchain) :
    (cached toolchain cache).Remembers (fun _ => True)
      fun k report world => cache.load k world = .ok (some report) where
  stays _ _ := id
  keeps _ _ _ := load_of_load hcache
  learns _ hanswer := by rw [load_of_ok hcache hanswer, if_pos rfl]

theorem load_afterAll (hcache : cache.Keeps toolchain) (requests : List Request)
    {session : Session σ} {k : CacheKey} {report : Text}
    (hload : cache.load k session.world = .ok (some report)) :
    cache.load k ((cached toolchain cache).afterAll requests session).world
      = .ok (some report) :=
  knows_afterAll (remembers_cached hcache) requests trivial hload

theorem load_of_answered (hcache : cache.Keeps toolchain) :
    ∀ call ∈ (cached toolchain cache).calls requests session, ∀ report,
      call.answer = .ok report →
      cache.load call.key ((cached toolchain cache).afterAll requests session).world
        = .ok (some report) :=
  knows_of_answered (remembers_cached hcache) trivial

/-- Calls whose answers are known get these answers. Nothing is run, and each of them is a hit. -/
theorem calls_replay (toolchain : Toolchain σ) (cache : Cache σ) {first : Runner τ}
    {start : Session τ} (session : Session σ)
    (hknown : ∀ call ∈ first.calls requests start, ∃ report,
      call.answer = .ok report ∧ cache.load call.key session.world = .ok (some report)) :
    ((cached toolchain cache).calls requests session).map Call.answer
        = (first.calls requests start).map Call.answer
      ∧ (cached toolchain cache).afterAll requests session
        = ⟨session.world, { session.stats with hits := session.stats.hits + requests.length }⟩ := by
  induction requests generalizing start session with
  | nil => exact ⟨rfl, rfl⟩
  | cons request requests ih =>
    rw [calls, List.forall_mem_cons] at hknown
    obtain ⟨⟨report, hanswer, hload⟩, hrest⟩ := hknown
    have hhit : cached toolchain cache request session
        = (.ok report, ⟨session.world, session.stats.countHit⟩) := cached_of_load hload
    obtain ⟨hanswers, hsession⟩ := ih ⟨session.world, session.stats.countHit⟩ hrest
    constructor
    · rw [calls, calls, List.map_cons, List.map_cons, hhit, hanswers, hanswer]
    · rw [afterAll, hhit, hsession, List.length_cons, Stats.countHit, Nat.add_right_comm,
        Nat.add_assoc]

end Runner

/-! ## Two passes -/

section

variable {toolchain : Toolchain (World τ)} {options : Options} {content : Text}
  {session : Session (World τ)} {page : Page}

/-- After a page was rendered, the answers to all that it asked are remembered. -/
theorem remembered_of_weave (hmemory : toolchain.LeavesMemory)
    (hpage : (weave options (Runner.cached toolchain .memory) content session).result = .ok page) :
    ∀ call ∈ (Runner.cached toolchain .memory).calls
        (asked options (Runner.cached toolchain .memory) content session) session,
      ∃ report, call.answer = .ok report ∧
        (weave options (Runner.cached toolchain .memory) content session).session.world.memory.get?
          call.key = some report := by
  intro call hcall
  obtain ⟨report, hanswer⟩ := answered_of_weave hpage call hcall
  refine ⟨report, hanswer, ?_⟩
  rw [session_weave]
  exact Except.ok.inj
    (Runner.load_of_answered (Cache.memory_keeps hmemory) call hcall report hanswer)

/-- A page that was rendered is rendered again from what is remembered then, whatever the toolchain
of the second pass may do: it is not asked. Every block that is run is a hit. Two requests may have
the same key, for what is remembered is never replaced. -/
theorem weave_replay (hmemory : toolchain.LeavesMemory)
    (hpage : (weave options (Runner.cached toolchain .memory) content session).result = .ok page)
    (later : Toolchain (World υ)) {world : World υ}
    (hworld : world.memory = (weave options (Runner.cached toolchain .memory) content
      session).session.world.memory) :
    let first := weave options (Runner.cached toolchain .memory) content session
    let again := weave options (Runner.cached later .memory) content (.start world)
    again.result = .ok page ∧ again.warnings = first.warnings ∧
      toolchainLog options later .memory content (.start world) = [] ∧
      again.session = ⟨world, ⟨0, (closedBlocks options.language (Text.lines content)).countP
        fun block => block.kind.isRun⟩⟩ ∧
      ∀ key report, session.world.memory.get? key = some report →
        first.session.world.memory.get? key = some report := by
  intro first again
  have hknown := remembered_of_weave hmemory hpage
  have hload : ∀ call ∈ (Runner.cached toolchain .memory).calls
      (asked options (Runner.cached toolchain .memory) content session) session,
      ∃ report, call.answer = .ok report ∧
        Cache.memory.load call.key world = .ok (some report) := by
    intro call hcall
    obtain ⟨report, hanswer, hreport⟩ := hknown call hcall
    exact ⟨report, hanswer, congrArg Except.ok ((congrArg (·.get? call.key) hworld).trans hreport)⟩
  obtain ⟨hanswers, hsession⟩ := Runner.calls_replay later .memory (.start world) hload
  obtain ⟨hasked, hresult, hwarnings⟩ := weave_congr hanswers
  refine ⟨hresult.trans hpage, hwarnings, ?_, ?_, ?_⟩
  · -- a runner with a log is one more runner with a cache
    obtain ⟨-, hlogged⟩ := Runner.calls_replay later.logged Cache.memory.logged
      (Session.start world).logged hload
    rw [toolchainLog_eq, hasked]
    exact congrArg (·.world.log) hlogged
  · rw [session_weave, hasked, hsession, length_asked hpage]
    simp only [Session.start, Stats.zero, Nat.zero_add]
  · intro key report hreport
    have hstart : Cache.memory.load key session.world = .ok (some report) :=
      congrArg Except.ok hreport
    have hkept := Runner.load_afterAll (Cache.memory_keeps hmemory)
      (asked options (Runner.cached toolchain .memory) content session) hstart
    rw [← session_weave] at hkept
    exact Except.ok.inj hkept

end

/-- The toolchain that never reports the same thing twice: it reports how often it was asked
before. -/
def Toolchain.counting : Toolchain (World Nat) where
  execute _ world := (.ok ⟨Text.ofNat world.tool, []⟩, { world with tool := world.tool + 1 })

/-- The toolchain that cannot be started. -/
def Toolchain.missing : Toolchain (World Unit) where
  execute _ world := (.error (.toolchainSpawn [] []), world)

/-- A page whose collection and whose complete file are the same program. -/
def twicePage : Text :=
  (["```zig -collect_1\n", "a\n", "```\n", "```zig -execute_1\n", "b\n", "```\n",
    "```zig -singleFile\n", "a\n", "b\n", "```\n"].map String.toList).flatten

/-- A session in which nothing was asked. -/
def countingSession : Session (World Nat) :=
  .start (.ofDisk (.blank []) 0)

/-- The page is rendered again by a toolchain that is not there: both reports come from memory. -/
theorem weave_replay_twicePage :
    Toolchain.counting.LeavesMemory ∧ ∃ page memory,
      (weave .standard (Runner.cached Toolchain.counting .memory) twicePage
        countingSession).result = .ok page ∧
      (weave .standard (Runner.cached Toolchain.counting .memory) twicePage
        countingSession).session.world.memory = memory ∧
      let again := weave .standard (Runner.cached Toolchain.missing .memory) twicePage
        (.start ⟨.blank [], memory, ()⟩)
      again.result = .ok page ∧ again.session.stats = ⟨0, 2⟩ := by
  have hmemory : Toolchain.counting.LeavesMemory := fun _ _ => rfl
  have hsucceeds : (weave .standard (Runner.cached Toolchain.counting .memory) twicePage
      countingSession).result.isOk = true := by decide +kernel
  have hruns : (closedBlocks Options.standard.language (Text.lines twicePage)).countP
      (fun block => block.kind.isRun) = 2 := by decide +kernel
  obtain ⟨memory, hremembered⟩ : ∃ memory, (weave .standard
      (Runner.cached Toolchain.counting .memory) twicePage
      countingSession).session.world.memory = memory := ⟨_, rfl⟩
  obtain ⟨page, hpage⟩ := exists_ok_of_isOk hsucceeds
  have hworld : (World.mk (.blank []) memory ()).memory = (weave .standard
      (Runner.cached Toolchain.counting .memory) twicePage
      countingSession).session.world.memory := hremembered.symm
  obtain ⟨hagain, -, -, hsession, -⟩ := weave_replay hmemory hpage Toolchain.missing hworld
  refine ⟨hmemory, page, memory, hpage, hremembered, hagain, ?_⟩
  rw [hsession, hruns]

end Weave

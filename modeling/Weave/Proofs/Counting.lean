import Weave.Proofs.Processing
import Weave.Proofs.Replay

/-!
# Weave.Proofs.Counting — what is counted for a document is its own

A session counts the runs and the hits of all its documents, and every document reports the difference
that it made. What came before, with success or not, is no part of it: what a document reports can be
read off its own requests and its own blocks.

1. **Requests**: each of them that is answered is a run or a hit (`count_of_answered`), and both are
   added to what was counted before (`stats_afterAll`).
2. **Pages**: a page that is rendered has one such request for each block that is run (`stats_weave`,
   `count_pageCalls`).
3. **Documents**: `process_stats`.
-/

namespace Weave

variable {σ τ : Type}

/-! ## Requests -/

namespace Runner

section

variable (toolchain : Toolchain σ) (cache : Cache σ) (requests : List Request)
  (session : Session (Logged σ))

/-- The log has one request more for every call that missed. -/
theorem length_log_afterAll :
    ((logged toolchain cache).afterAll requests session).world.log.length
      = session.world.log.length
        + ((logged toolchain cache).calls requests session).countP (Call.missed cache) := by
  rw [log_afterAll, List.length_append, List.length_map, List.countP_eq_length_filter]

/-- What is counted is counted from where the session stood. -/
theorem stats_afterAll :
    ((logged toolchain cache).afterAll requests session).stats
      = ⟨session.stats.runs
            + ((logged toolchain cache).calls requests session).countP (Call.missed cache),
          session.stats.hits
            + ((logged toolchain cache).calls requests session).countP (Call.known cache)⟩ := by
  have hruns := count_afterAll (·.stats.runs) (Call.missed cache)
    (runs_cached toolchain.logged cache.logged) requests session
  have hhits := count_afterAll (·.stats.hits) (Call.known cache)
    (hits_cached toolchain.logged cache.logged) requests session
  exact congrArg₂ Stats.mk hruns hhits

variable {toolchain cache requests session}

/-- A call that is answered has read the cache. -/
theorem read_of_answered {call : Call (Logged σ)}
    (hcall : call ∈ (logged toolchain cache).calls requests session) {report : Text}
    (hanswer : call.answer = .ok report) : call.read cache = true := by
  have hrun : cached toolchain.logged cache.logged call.request call.before = _ :=
    eq_of_mem_calls call hcall
  unfold Call.read Cache.reads
  split
  · rfl
  · next failure hload =>
    have hunread : cache.logged.load (.ofRequest call.request) call.before.world
        = .error failure :=
      hload
    simp only [cached, hunread, Prod.mk.injEq] at hrun
    cases hrun.1.trans hanswer

/-- Requests that are answered are runs or hits. -/
theorem count_of_answered
    (hanswered : ∀ call ∈ (logged toolchain cache).calls requests session,
      ∃ report, call.answer = .ok report) :
    ((logged toolchain cache).calls requests session).countP (Call.missed cache)
        + ((logged toolchain cache).calls requests session).countP (Call.known cache)
      = requests.length := by
  have hread : ∀ call ∈ (logged toolchain cache).calls requests session,
      call.read cache = true := by
    intro call hcall
    obtain ⟨report, hanswer⟩ := hanswered call hcall
    exact read_of_answered hcall hanswer
  rw [← countP_read, List.countP_eq_length.2 hread, length_calls]

end

end Runner

/-! ## Pages -/

/-- The calls of a pass over a page, in a session that keeps a log of the toolchain. -/
def pageCalls (options : Options) (toolchain : Toolchain σ) (cache : Cache σ) (content : Text)
    (session : Session σ) : List (Call (Logged σ)) :=
  (Runner.logged toolchain cache).calls
    (asked options (Runner.cached toolchain cache) content session) session.logged

section

variable {options : Options} {toolchain : Toolchain σ} {cache : Cache σ} {content : Text}
  {session : Session σ}

/-- The toolchain is given the requests that miss. -/
theorem length_toolchainLog :
    (toolchainLog options toolchain cache content session).length
      = (pageCalls options toolchain cache content session).countP (Call.missed cache) := by
  rw [toolchainLog_eq, Runner.length_log_afterAll]
  exact Nat.zero_add _

/-- Whether a page is rendered or not, it adds the requests that the toolchain was given to the runs,
and those that the cache knew to the hits. -/
theorem stats_weave :
    (weave options (Runner.cached toolchain cache) content session).session.stats
      = ⟨session.stats.runs + (toolchainLog options toolchain cache content session).length,
          session.stats.hits
            + (pageCalls options toolchain cache content session).countP (Call.known cache)⟩ := by
  obtain ⟨-, hsession⟩ := weave_logged options toolchain cache content session
  rw [← hsession, session_weave, asked_logged, length_toolchainLog]
  exact Runner.stats_afterAll toolchain cache _ session.logged

variable {page : Page}

/-- A page that is rendered has one call for each block that is run, and each of them is a run or a
hit. -/
theorem count_pageCalls
    (h : (weave options (Runner.cached toolchain cache) content session).result = .ok page) :
    (toolchainLog options toolchain cache content session).length
        + (pageCalls options toolchain cache content session).countP (Call.known cache)
      = (closedBlocks options.language (Text.lines content)).countP fun block =>
          block.kind.isRun := by
  have hlogged : (weave options (Runner.logged toolchain cache) content session.logged).result
      = .ok page :=
    (weave_logged options toolchain cache content session).1.trans h
  have hanswered := answered_of_weave hlogged
  rw [asked_logged] at hanswered
  rw [length_toolchainLog, ← length_asked h]
  exact Runner.count_of_answered hanswered

/-- All blocks of a page that is rendered are counted. -/
theorem managedBlocks_of_weave {runner : Runner σ}
    (h : (weave options runner content session).result = .ok page) :
    page.managedBlocks = (closedBlocks options.language (Text.lines content)).length := by
  have hrender := render_of_weave h
  unfold Outline.render at hrender
  rw [renderParts_of_weave h, complete_of_weave h] at hrender
  exact (congrArg Page.managedBlocks (Except.ok.inj (congrArg Prod.fst hrender))).symm

end

/-! ## Documents -/

namespace Document

variable {input suffix : Text} {options : Options} {target : Target}
  {session after : Session (World τ)} {report : DocumentReport}

/-- A document that succeeds was rendered, and writing its page counts nothing. -/
theorem page_of_process {runner : Runner (World τ)}
    (h : process input suffix options target runner session = (.ok report, after)) :
    ∃ source page, session.world.disk.readText input = .ok source ∧
      (weave options runner source session).result = .ok page ∧
      report.managedBlocks = page.managedBlocks ∧
      after.stats = (weave options runner source session).session.stats ∧
      report.stats = after.stats.since session.stats := by
  unfold process at h
  split at h
  · cases h
  · split at h
    · cases h
    · next source hread =>
      simp only at h
      split at h
      · cases h
      · next page hpage =>
        split at h
        · cases h
        · obtain ⟨hreport, rfl⟩ := Prod.mk.inj h
          obtain rfl := Except.ok.inj hreport
          exact ⟨source, page, hread, hpage, rfl, rfl, rfl⟩

/-- What is counted for a document that succeeds, in a session in which anything may have been counted
before. The runs are the requests that the toolchain was given for it, and the hits are those that the
cache knew. Together they are as many as the blocks that are run, so that the other blocks are those
that are only shown or collected. Nothing is lost in the difference: what is reported is what was
added. -/
theorem process_stats {toolchain : Toolchain (World τ)} {cache : Cache (World τ)}
    (h : process input suffix options target (Runner.cached toolchain cache) session
      = (.ok report, after)) :
    ∃ source, session.world.disk.readText input = .ok source ∧
      let blocks := closedBlocks options.language (Text.lines source)
      report.stats.runs = (toolchainLog options toolchain cache source session).length ∧
      report.stats.hits
        = (pageCalls options toolchain cache source session).countP (Call.known cache) ∧
      report.stats.runs + report.stats.hits = blocks.countP (fun block => block.kind.isRun) ∧
      report.stats.runs + report.stats.hits ≤ report.managedBlocks ∧
      report.managedBlocks - (report.stats.runs + report.stats.hits)
        = blocks.countP (fun block => !block.kind.isRun) ∧
      after.stats.runs = session.stats.runs + report.stats.runs ∧
      after.stats.hits = session.stats.hits + report.stats.hits := by
  obtain ⟨source, page, hread, hpage, hmanaged, hafter, hreport⟩ := page_of_process h
  rw [stats_weave] at hafter
  have hruns : report.stats.runs = (toolchainLog options toolchain cache source session).length := by
    rw [hreport, hafter]
    exact Nat.add_sub_cancel_left ..
  have hhits : report.stats.hits
      = (pageCalls options toolchain cache source session).countP (Call.known cache) := by
    rw [hreport, hafter]
    exact Nat.add_sub_cancel_left ..
  have hsum : report.stats.runs + report.stats.hits
      = (closedBlocks options.language (Text.lines source)).countP fun block =>
          block.kind.isRun := by
    rw [hruns, hhits]
    exact count_pageCalls hpage
  have hall : report.managedBlocks
      = (closedBlocks options.language (Text.lines source)).length :=
    hmanaged.trans (managedBlocks_of_weave hpage)
  -- every closed block is run or not, and none of them is counted twice
  have hsplit := (closedBlocks options.language (Text.lines source)).length_eq_countP_add_countP
    fun block => block.kind.isRun
  refine ⟨source, hread, hruns, hhits, hsum, ?_, ?_, ?_, ?_⟩
  · rw [hsum, hall]
    exact List.countP_le_length
  · rw [hsum, hall, hsplit]
    simp
  · rw [hafter, hruns]
  · rw [hafter, hhits]

/-- A source that runs a program and does not end its last block, and one that runs the same program
and another one. -/
def countedDisk : Disk :=
  ((Disk.blank ["w".toList]).plantAt "a.z.md".toList (.file (Text.encode
    "```zig -singleFile\np\n```\n```zig\n".toList))).plantAt "b.z.md".toList (.file (Text.encode
      "```zig -singleFile\np\n```\n```zig -skip\n```\n```zig -singleFile\nr\n```\n".toList))

/-- The document that fails has counted a run. The one behind it reports a run and a hit of its own, for
two of its three blocks. -/
theorem process_stats_failed :
    let runner := Runner.cached Toolchain.scripted .memory
    let session := Session.start (World.ofDisk countedDisk (.ofResponses []))
    let first := process "a.z.md".toList ".z.md".toList .standard ⟨none, false⟩ runner session
    let second := process "b.z.md".toList ".z.md".toList .standard ⟨none, false⟩ runner first.2
    first.1.isOk = false ∧ first.2.stats = ⟨1, 0⟩ ∧
      ∃ report after, second = (.ok report, after) ∧ report.stats = ⟨1, 1⟩ ∧
        report.managedBlocks = 3 ∧ after.stats.runs = 1 + report.stats.runs ∧
        report.stats.runs + report.stats.hits ≤ report.managedBlocks := by
  intro runner session first second
  have hends : first.1.isOk = false ∧ first.2.stats = ⟨1, 0⟩ ∧
      second.1.map (fun report => (report.stats, report.managedBlocks)) = .ok (⟨1, 1⟩, 3) := by
    decide +kernel
  obtain ⟨hfails, hfirst, hreport⟩ := hends
  rcases hsecond : second with ⟨failure | report, after⟩
  · rw [hsecond] at hreport
    cases hreport
  · rw [hsecond] at hreport
    obtain ⟨hstats, hmanaged⟩ := Prod.mk.inj (Except.ok.inj hreport)
    obtain ⟨-, -, -, -, -, hle, -, hruns, -⟩ := process_stats hsecond
    rw [hfirst] at hruns
    exact ⟨hfails, hfirst, report, after, rfl, hstats, hmanaged, hruns, hle⟩

end Document

end Weave

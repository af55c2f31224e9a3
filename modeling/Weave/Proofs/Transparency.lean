import Weave.Proofs.Asking

/-!
# Weave.Proofs.Transparency — remembering changes nothing on a page

The answers of a toolchain may be a function of the request. If reports are then remembered, a page
comes out as if nothing was: the memory only spares the toolchain some requests.

The invariant is `Faithful`: no two of the requests in question share a key, and what is remembered
of them is what the toolchain would say. A call keeps it (`faithful_cached`), so the answers of all
calls are those of the toolchain (`answers_memory`), and the toolchain gets each request that is not
known once (`log_memory`).
-/

namespace Weave

variable {σ τ : Type}

/-! ## Answers -/

/-- The answers of a toolchain are a function of the request, whatever world it runs in. -/
def Toolchain.Answers (toolchain : Toolchain σ) (answer : Request → Except Failure ToolOutput) :
    Prop :=
  ∀ request world, (toolchain.execute request world).1 = answer request

/-- What a request comes to if the toolchain is asked. -/
def reported (answer : Request → Except Failure ToolOutput) (request : Request) :
    Except Failure Text :=
  (answer request).map ToolOutput.report

/-- Whether nothing is remembered of a request. -/
def Request.forgotten (memory : Store CacheKey Text) (request : Request) : Bool :=
  (memory.get? (.ofRequest request)).isNone

/-- What is remembered of some requests is what they come to, and none of them is taken for
another. -/
structure Faithful (answer : Request → Except Failure ToolOutput) (requests : List Request)
    (memory : Store CacheKey Text) : Prop where
  distinct : ∀ request ∈ requests, ∀ other ∈ requests,
    CacheKey.ofRequest request = .ofRequest other → request = other
  known : ∀ request ∈ requests, ∀ report, memory.get? (.ofRequest request) = some report →
    reported answer request = .ok report

/-- A runner that remembers nothing asks the toolchain every time. -/
theorem answers_none {toolchain : Toolchain σ} {answer : Request → Except Failure ToolOutput}
    (hanswers : toolchain.Answers answer) (requests : List Request) (session : Session σ) :
    ((Runner.cached toolchain .none).calls requests session).map Call.answer
      = requests.map (reported answer) := by
  induction requests generalizing session with
  | nil => rfl
  | cons request requests ih =>
    have hanswer : (Runner.cached toolchain .none request session).1 = reported answer request := by
      rw [reported, ← hanswers request session.world]
      simp only [Runner.cached, Cache.none, Runner.storing]
      rcases toolchain.execute request session.world with ⟨failure | output, world⟩
      · rfl
      · rfl
    rw [Runner.calls, List.map_cons, List.map_cons, ih, hanswer]

/-- All requests reach the toolchain of a runner that remembers nothing. -/
theorem log_none (toolchain : Toolchain σ) (requests : List Request)
    (session : Session (Logged σ)) :
    ((Runner.logged toolchain .none).afterAll requests session).world.log
      = session.world.log ++ requests := by
  induction requests generalizing session with
  | nil => simp [Runner.afterAll]
  | cons request requests ih =>
    rw [Runner.afterAll, ih, Runner.log_logged]
    simp [Cache.lacks, Cache.none]

/-! ## Calls of the runner with a memory -/

section

variable {toolchain : Toolchain (World τ)} {answer : Request → Except Failure ToolOutput}
  {requests : List Request} {request : Request} {session : Session (World τ)}

theorem answer_memory (hanswers : toolchain.Answers answer)
    (hfaithful : Faithful answer requests session.world.memory) (hrequest : request ∈ requests) :
    (Runner.cached toolchain .memory request session).1 = reported answer request := by
  have hserved := Runner.served toolchain .memory request session
  generalize Runner.cached toolchain .memory request session = result at hserved ⊢
  cases hserved with
  | unread failure hload => cases hload
  | hit report hload =>
    exact (hfaithful.known request hrequest report (Except.ok.inj hload)).symm
  | failed failure world hload hrun =>
    rw [reported, ← hanswers request session.world, hrun]
    rfl
  | unstored output failure ran world hload hrun hstore => cases hstore
  | stored output ran world hload hrun hstore =>
    rw [reported, ← hanswers request session.world, hrun]
    rfl

/-- A request that fails leaves the memory as it was. -/
theorem get?_memory_of_error (hmemory : toolchain.LeavesMemory) {failure : Failure}
    (hfailed : (Runner.cached toolchain .memory request session).1 = .error failure)
    (k : CacheKey) :
    (Runner.cached toolchain .memory request session).2.world.memory.get? k
      = session.world.memory.get? k :=
  Except.ok.inj (Runner.load_of_error (Cache.memory_keeps hmemory) hfailed k)

/-- A request that is answered is remembered. -/
theorem get?_memory_of_ok (hmemory : toolchain.LeavesMemory) {report : Text}
    (hanswer : (Runner.cached toolchain .memory request session).1 = .ok report)
    (k : CacheKey) :
    (Runner.cached toolchain .memory request session).2.world.memory.get? k
      = if k = .ofRequest request then some report else session.world.memory.get? k := by
  have hload := Runner.load_of_ok (Cache.memory_keeps hmemory) hanswer k
  by_cases hk : k = .ofRequest request
  · rw [if_pos hk] at hload ⊢
    exact Except.ok.inj hload
  · rw [if_neg hk] at hload ⊢
    exact Except.ok.inj hload

/-- A call keeps what is remembered faithful. -/
theorem faithful_cached (hmemory : toolchain.LeavesMemory) (hanswers : toolchain.Answers answer)
    (hfaithful : Faithful answer requests session.world.memory) (hrequest : request ∈ requests) :
    Faithful answer requests
      (Runner.cached toolchain .memory request session).2.world.memory := by
  refine ⟨hfaithful.distinct, ?_⟩
  intro other hother report hreport
  have hanswer := answer_memory hanswers hfaithful hrequest
  cases hreported : reported answer request with
  | error failure =>
    rw [get?_memory_of_error hmemory (hanswer.trans hreported)] at hreport
    exact hfaithful.known other hother report hreport
  | ok answered =>
    rw [get?_memory_of_ok hmemory (hanswer.trans hreported)] at hreport
    split at hreport
    · next hkey =>
      rw [hfaithful.distinct other hother request hrequest hkey, hreported, Option.some.inj hreport]
    · exact hfaithful.known other hother report hreport

/-- The answers are those of the toolchain. -/
theorem answers_memory (hmemory : toolchain.LeavesMemory) (hanswers : toolchain.Answers answer)
    {asked : List Request} (hasked : asked ⊆ requests)
    (hfaithful : Faithful answer requests session.world.memory) :
    ((Runner.cached toolchain .memory).calls asked session).map Call.answer
      = asked.map (reported answer) := by
  induction asked generalizing session with
  | nil => rfl
  | cons request asked ih =>
    obtain ⟨hrequest, hasked⟩ := List.cons_subset.1 hasked
    rw [Runner.calls, List.map_cons, List.map_cons,
      ih hasked (faithful_cached hmemory hanswers hfaithful hrequest),
      answer_memory hanswers hfaithful hrequest]

/-- After a request was answered it is remembered, and of the others what was remembered before. -/
theorem forgotten_cached (hmemory : toolchain.LeavesMemory) (hanswers : toolchain.Answers answer)
    (hfaithful : Faithful answer requests session.world.memory) (hrequest : request ∈ requests)
    {other : Request} (hother : other ∈ requests) {report : Text}
    (hreported : reported answer request = .ok report) :
    other.forgotten (Runner.cached toolchain .memory request session).2.world.memory
      = (other.forgotten session.world.memory && !other == request) := by
  have hanswer := answer_memory hanswers hfaithful hrequest
  rw [Request.forgotten, get?_memory_of_ok hmemory (hanswer.trans hreported)]
  by_cases hsame : other = request
  · simp [hsame]
  · have hkey : CacheKey.ofRequest other ≠ .ofRequest request :=
      fun hkey => hsame (hfaithful.distinct other hother request hrequest hkey)
    simp [hkey, hsame, Request.forgotten]

/-- The toolchain gets the requests of which nothing is remembered, each of them once. A failure is
not remembered, so only the last request may fail. -/
theorem log_memory (hmemory : toolchain.LeavesMemory) (hanswers : toolchain.Answers answer)
    {asked : List Request} (hasked : asked ⊆ requests)
    (hanswered : ∀ request ∈ asked.dropLast, ∃ report, reported answer request = .ok report)
    {session : Session (Logged (World τ))}
    (hfaithful : Faithful answer requests session.world.world.memory) :
    ((Runner.logged toolchain .memory).afterAll asked session).world.log
      = session.world.log
        ++ (asked.filter (Request.forgotten session.world.world.memory)).eraseDups := by
  induction asked generalizing session with
  | nil => simp [Runner.afterAll]
  | cons request rest ih =>
    obtain ⟨hrequest, hrest⟩ := List.cons_subset.1 hasked
    have hworld : (Runner.logged toolchain .memory request session).2.world.world
        = (Runner.cached toolchain .memory request session.unlogged).2.world :=
      congrArg Session.world (Runner.logged_eq toolchain .memory request session).2
    have hkept : Faithful answer requests
        (Runner.cached toolchain .memory request session.unlogged).2.world.memory :=
      faithful_cached hmemory hanswers hfaithful hrequest
    rw [← hworld] at hkept
    -- what is unknown below is what was unknown above, without this request
    have hbelow : rest.filter (Request.forgotten
          (Runner.logged toolchain .memory request session).2.world.world.memory)
        = (rest.filter (Request.forgotten session.world.world.memory)).filter
          fun other => !other == request := by
      cases rest with
      | nil => rfl
      | cons next rest =>
        obtain ⟨report, hreported⟩ := hanswered request (by simp)
        rw [List.filter_filter, hworld]
        refine List.filter_congr fun other hother => ?_
        rw [Bool.and_comm]
        exact forgotten_cached hmemory hanswers hfaithful hrequest (hrest hother) hreported
    have hlacks : Cache.memory.lacks (.ofRequest request) session.world.world
        = request.forgotten session.world.world.memory := by
      simp only [Cache.lacks, Cache.memory, Request.forgotten]
      cases session.world.world.memory.get? (.ofRequest request) <;> rfl
    have hlog := ih hrest (fun other hother => hanswered other (by
      cases rest with
      | nil => cases hother
      | cons next rest => exact List.mem_cons_of_mem _ hother)) hkept
    rw [Runner.afterAll, hlog, Runner.log_logged, hlacks, List.append_assoc, List.filter_cons]
    rw [hbelow]
    congr 1
    by_cases hforgotten : request.forgotten session.world.world.memory = true
    · rw [if_pos hforgotten, if_pos hforgotten, List.eraseDups_cons, List.singleton_append]
    · rw [if_neg hforgotten, if_neg hforgotten, List.nil_append, List.filter_eq_self.2]
      intro other hother
      have hother := (List.mem_filter.1 hother).2
      have hne : other ≠ request := by
        rintro rfl
        exact hforgotten hother
      simp [hne]

end

/-! ## Pages -/

/-- The requests that reach the toolchain in a pass over a page, the first one first. -/
def toolchainLog (options : Options) (toolchain : Toolchain σ) (cache : Cache σ) (content : Text)
    (session : Session σ) : List Request :=
  (weave options (Runner.logged toolchain cache) content session.logged).session.world.log

section

variable (options : Options) (toolchain : Toolchain σ) (cache : Cache σ) (content : Text)
  (session : Session σ)

/-- The runner with a log is asked what the runner without it is asked. -/
theorem asked_logged :
    asked options (Runner.logged toolchain cache) content session.logged
      = asked options (Runner.cached toolchain cache) content session :=
  (weave_congr (calls_logged toolchain cache
    (asked options (Runner.cached toolchain cache) content session) session.logged).1).1

/-- The log makes no difference to a pass over a page. -/
theorem weave_logged :
    let bare := weave options (Runner.cached toolchain cache) content session
    let logged := weave options (Runner.logged toolchain cache) content session.logged
    logged.result = bare.result ∧ logged.session.unlogged = bare.session := by
  intro bare logged
  obtain ⟨hanswers, hsession⟩ := calls_logged toolchain cache
    (asked options (Runner.cached toolchain cache) content session) session.logged
  obtain ⟨-, hresult, -⟩ := weave_congr hanswers
  refine ⟨hresult, ?_⟩
  rw [session_weave, session_weave, asked_logged]
  exact hsession

/-- What reaches the toolchain is what the calls of the page leave in the log. -/
theorem toolchainLog_eq :
    toolchainLog options toolchain cache content session
      = ((Runner.logged toolchain cache).afterAll
          (asked options (Runner.cached toolchain cache) content session)
          session.logged).world.log := by
  rw [toolchainLog, session_weave, asked_logged]

/-- If nothing is remembered, all requests of a page reach the toolchain. -/
theorem toolchainLog_none :
    toolchainLog options toolchain .none content session
      = asked options (Runner.cached toolchain .none) content session := by
  rw [toolchainLog_eq, log_none]
  rfl

variable {toolchain} {answer : Request → Except Failure ToolOutput}

/-- The toolchain has an answer to all requests of a page but the last one. -/
theorem reported_asked (hanswers : toolchain.Answers answer) :
    ∀ request ∈ (asked options (Runner.cached toolchain .none) content session).dropLast,
      ∃ report, reported answer request = .ok report := by
  intro request hrequest
  have hcalls := answers_none hanswers
    (asked options (Runner.cached toolchain .none) content session) session
  have hmem := List.mem_map_of_mem (f := reported answer) hrequest
  rw [List.map_dropLast, ← hcalls, ← List.map_dropLast] at hmem
  obtain ⟨call, hcall, hcallAnswer⟩ := List.mem_map.1 hmem
  obtain ⟨report, hreport⟩ :=
    answered_asked options (Runner.cached toolchain .none) content session call hcall
  exact ⟨report, by rw [← hcallAnswer, hreport]⟩

end

variable {options : Options} {toolchain : Toolchain (World τ)} {content : Text}
  {session : Session (World τ)} {answer : Request → Except Failure ToolOutput}

/-- A page comes out the same whether reports are remembered or not, and fails the same. If they are
remembered, the toolchain gets the same requests in the same order, without those that are known at
the start and those that came before. The logs that show this make no difference to a pass. -/
theorem weave_memory (hmemory : toolchain.LeavesMemory) (hanswers : toolchain.Answers answer)
    (hdistinct : ∀ request ∈ toolchainLog options toolchain .none content session,
      ∀ other ∈ toolchainLog options toolchain .none content session,
        CacheKey.ofRequest request = .ofRequest other → request = other)
    (hknown : ∀ request ∈ toolchainLog options toolchain .none content session,
      ∀ report, session.world.memory.get? (.ofRequest request) = some report →
        ∃ output, answer request = .ok output ∧ output.report = report) :
    let plain := weave options (Runner.cached toolchain .none) content session
    let remembering := weave options (Runner.cached toolchain .memory) content session
    remembering.result = plain.result ∧ remembering.warnings = plain.warnings ∧
      asked options (Runner.cached toolchain .memory) content session
        = asked options (Runner.cached toolchain .none) content session ∧
      toolchainLog options toolchain .none content session
        = asked options (Runner.cached toolchain .none) content session ∧
      toolchainLog options toolchain .memory content session
        = ((toolchainLog options toolchain .none content session).filter
            (Request.forgotten session.world.memory)).eraseDups ∧
      (∀ cache : Cache (World τ),
        let bare := weave options (Runner.cached toolchain cache) content session
        let logged := weave options (Runner.logged toolchain cache) content session.logged
        logged.result = bare.result ∧ logged.session.unlogged = bare.session) := by
  intro plain remembering
  rw [toolchainLog_none] at hdistinct hknown ⊢
  generalize hasked : asked options (Runner.cached toolchain .none) content session = requests
    at hdistinct hknown ⊢
  have hfaithful : Faithful answer requests session.world.memory := by
    refine ⟨hdistinct, ?_⟩
    intro request hrequest report hreport
    obtain ⟨output, houtput, rfl⟩ := hknown request hrequest report hreport
    rw [reported, houtput]
    rfl
  -- the requests of the page get the same answers
  have hsame : ((Runner.cached toolchain .memory).calls requests session).map Call.answer
      = ((Runner.cached toolchain .none).calls requests session).map Call.answer := by
    rw [answers_memory hmemory hanswers (List.Subset.refl requests) hfaithful,
      answers_none hanswers]
  obtain ⟨hremembering, hresult, hwarnings⟩ : _ ∧ remembering.result = plain.result
      ∧ remembering.warnings = plain.warnings := by
    rw [← hasked] at hsame
    exact weave_congr hsame
  rw [hasked] at hremembering
  refine ⟨hresult, hwarnings, hremembering, rfl, ?_,
    fun cache => weave_logged options toolchain cache content session⟩
  rw [toolchainLog_eq, hremembering]
  have hanswered : ∀ request ∈ requests.dropLast,
      ∃ report, reported answer request = .ok report := by
    rw [← hasked]
    exact reported_asked options content session hanswers
  have hlog : ((Runner.logged toolchain .memory).afterAll requests session.logged).world.log
      = [] ++ (requests.filter (Request.forgotten session.world.memory)).eraseDups :=
    log_memory hmemory hanswers (List.Subset.refl requests) hanswered hfaithful
  rw [hlog, List.nil_append]

/-- The toolchain that reports every program as it is. -/
def Toolchain.echo : Toolchain (World Unit) where
  execute request world := (.ok ⟨request.body, []⟩, world)

/-- A page with three programs, the third of which is the first one again. -/
def repeatingPage : Text :=
  (["```zig -singleFile\n", "a\n", "```\n", "```zig -singleFile\n", "b\n", "```\n",
    "```zig -singleFile\n", "a\n", "```\n"].map String.toList).flatten

/-- The first program of the page. -/
def firstProgram : Request :=
  ⟨.run, "a\n".toList⟩

/-- The second program of the page. -/
def secondProgram : Request :=
  ⟨.run, "b\n".toList⟩

/-- A session in which the second program of the page is known. -/
def knowingSession : Session (World Unit) :=
  .start ⟨.blank [], Store.empty.insert (.ofRequest secondProgram)
    (ToolOutput.report ⟨secondProgram.body, []⟩), ()⟩

theorem ofRequest_ne : CacheKey.ofRequest firstProgram ≠ .ofRequest secondProgram := by
  decide +kernel

/-- Of the three programs only the first one reaches the toolchain. -/
theorem weave_memory_repeating :
    Toolchain.echo.LeavesMemory ∧
      Toolchain.echo.Answers (fun request => .ok ⟨request.body, []⟩) ∧
      toolchainLog .standard Toolchain.echo .none repeatingPage knowingSession
        = [firstProgram, secondProgram, firstProgram] ∧
      (weave .standard (Runner.cached Toolchain.echo .memory) repeatingPage knowingSession).result
        = (weave .standard (Runner.cached Toolchain.echo .none) repeatingPage
            knowingSession).result ∧
      toolchainLog .standard Toolchain.echo .memory repeatingPage knowingSession
        = [firstProgram] := by
  have hmemory : Toolchain.echo.LeavesMemory := fun _ _ => rfl
  have hanswers : Toolchain.echo.Answers (fun request => .ok ⟨request.body, []⟩) := fun _ _ => rfl
  have hlog : toolchainLog .standard Toolchain.echo .none repeatingPage knowingSession
      = [firstProgram, secondProgram, firstProgram] := by
    rw [toolchainLog_none]
    decide +kernel
  have hdistinct : ∀ request ∈ toolchainLog .standard Toolchain.echo .none repeatingPage
      knowingSession, ∀ other ∈ toolchainLog .standard Toolchain.echo .none repeatingPage
        knowingSession, CacheKey.ofRequest request = .ofRequest other → request = other := by
    rw [hlog]
    simp [ofRequest_ne, ofRequest_ne.symm]
  have hknown : ∀ request ∈ toolchainLog .standard Toolchain.echo .none repeatingPage
      knowingSession, ∀ report,
        knowingSession.world.memory.get? (.ofRequest request) = some report →
          ∃ output, Except.ok ⟨request.body, []⟩ = (.ok output : Except Failure ToolOutput)
            ∧ output.report = report := by
    rw [hlog]
    simp [knowingSession, Session.start, Store.get?_insert, ofRequest_ne]
  obtain ⟨hresult, -, -, -, hrun, -⟩ := weave_memory hmemory hanswers hdistinct hknown
  refine ⟨hmemory, hanswers, hlog, hresult, ?_⟩
  rw [hrun, hlog]
  simp [Request.forgotten, knowingSession, Session.start, Store.get?_insert, ofRequest_ne,
    List.eraseDups_cons]

end Weave

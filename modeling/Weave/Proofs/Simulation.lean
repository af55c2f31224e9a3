import Weave.Proofs.Transparency

/-!
# Weave.Proofs.Simulation — caches that cannot be told apart

Two caches may keep their reports in quite different ways. If there is a relation between their
worlds under which they give the same answers, and which their stores and the toolchain keep, then no
page can tell them apart.

* `Cache.Simulates`, `Toolchain.Simulates`: what is asked of one operation.
* `simulates_performAll`: any operations of a cache.
* `simulates_cached`, `simulates_calls`: one request, and all requests.
* `simulates_weave`: a page with its warnings and counters, and what the toolchain is given.
-/

namespace Weave

variable {σ τ : Type}

/-! ## One operation -/

/-- In worlds that are related, a cache gives the answers that another one gives, and the worlds are
related afterwards. -/
structure Cache.Simulates (related : σ → τ → Prop) (cache : Cache σ) (other : Cache τ) : Prop where
  load : ∀ {world world'}, related world world' → ∀ request,
    cache.load (.ofRequest request) world = other.load (.ofRequest request) world'
  store : ∀ {world world'}, related world world' → ∀ request report,
    (cache.store (.ofRequest request) report world).1
        = (other.store (.ofRequest request) report world').1 ∧
      related (cache.store (.ofRequest request) report world).2
        (other.store (.ofRequest request) report world').2

/-- In worlds that are related, a toolchain gives the answers that another one gives, and the worlds
are related afterwards. -/
def Toolchain.Simulates (related : σ → τ → Prop) (toolchain : Toolchain σ) (other : Toolchain τ) :
    Prop :=
  ∀ {world world'}, related world world' → ∀ request,
    (toolchain.execute request world).1 = (other.execute request world').1 ∧
      related (toolchain.execute request world).2 (other.execute request world').2

/-- Sessions whose worlds are related, and in which the same was counted. -/
structure Session.Related (related : σ → τ → Prop) (session : Session σ) (session' : Session τ) :
    Prop where
  world : related session.world session'.world
  stats : session.stats = session'.stats

/-! ## Sequences of operations -/

namespace Cache

/-- An operation of a cache. -/
inductive Operation where
  | load (request : Request)
  | store (request : Request) (report : Text)
deriving Repr, DecidableEq, Inhabited

/-- Whether an operation only looks up. -/
def Operation.isLoad : Operation → Bool
  | load _ => true
  | store _ _ => false

/-- What an operation answers, and the world afterwards. A store that does not fail answers
nothing. -/
def perform (cache : Cache σ) (operation : Operation) (world : σ) :
    Except Failure (Option Text) × σ :=
  match operation with
  | .load request => (cache.load (.ofRequest request) world, world)
  | .store request report =>
    ((cache.store (.ofRequest request) report world).1.map fun _ => Option.none,
      (cache.store (.ofRequest request) report world).2)

/-- What operations answer one after the other, whether they fail or not, and the world
afterwards. -/
def performAll (cache : Cache σ) : List Operation → σ → List (Except Failure (Option Text)) × σ
  | [], world => ([], world)
  | operation :: operations, world =>
    ((cache.perform operation world).1
        :: (performAll cache operations (cache.perform operation world).2).1,
      (performAll cache operations (cache.perform operation world).2).2)

/-- The report that was stored last under a key. -/
def lastStored (key : CacheKey) : List Operation → Option Text
  | [] => Option.none
  | .load _ :: operations => lastStored key operations
  | .store request report :: operations =>
    lastStored key operations <|> if key = .ofRequest request then some report else Option.none

/-- Nothing changes if nothing is stored. -/
theorem performAll_of_isLoad (cache : Cache σ) {operations : List Operation}
    (hloads : ∀ operation ∈ operations, operation.isLoad = true) (world : σ) :
    (cache.performAll operations world).2 = world := by
  induction operations with
  | nil => rfl
  | cons operation operations ih =>
    obtain ⟨hload, hrest⟩ := List.forall_mem_cons.1 hloads
    cases operation with
    | load request => exact ih hrest
    | store request report => cases hload

end Cache

section

variable {related : σ → τ → Prop} {toolchain : Toolchain σ} {other : Toolchain τ} {cache : Cache σ}
  {cache' : Cache τ} {session : Session σ} {session' : Session τ}

/-- Operations that come one after the other are answered alike. -/
theorem simulates_performAll (hcache : cache.Simulates related cache')
    (operations : List Cache.Operation) {world : σ} {world' : τ} (h : related world world') :
    (cache.performAll operations world).1 = (cache'.performAll operations world').1 ∧
      related (cache.performAll operations world).2 (cache'.performAll operations world').2 := by
  induction operations generalizing world world' with
  | nil => exact ⟨rfl, h⟩
  | cons operation operations ih =>
    have hone : (cache.perform operation world).1 = (cache'.perform operation world').1 ∧
        related (cache.perform operation world).2 (cache'.perform operation world').2 := by
      cases operation with
      | load request => exact ⟨hcache.load h request, h⟩
      | store request report =>
        obtain ⟨hanswer, hstored⟩ := hcache.store h request report
        exact ⟨congrArg (Except.map _) hanswer, hstored⟩
    obtain ⟨hanswers, hafter⟩ := ih hone.2
    rw [Cache.performAll, Cache.performAll, hone.1, hanswers]
    exact ⟨rfl, hafter⟩

/-! ## Requests -/

/-- A request is answered alike. -/
theorem simulates_cached (htoolchain : toolchain.Simulates related other)
    (hcache : cache.Simulates related cache') (h : session.Related related session')
    (request : Request) :
    (Runner.cached toolchain cache request session).1
        = (Runner.cached other cache' request session').1 ∧
      (Runner.cached toolchain cache request session).2.Related related
        (Runner.cached other cache' request session').2 := by
  unfold Runner.cached
  rw [hcache.load h.world request]
  cases cache'.load (.ofRequest request) session'.world with
  | error failure => exact ⟨rfl, h⟩
  | ok known =>
    cases known with
    | some report => exact ⟨rfl, h.world, congrArg Stats.countHit h.stats⟩
    | none =>
      have hcount := congrArg Stats.countRun h.stats
      obtain ⟨houtput, hran⟩ := htoolchain h.world request
      unfold Runner.storing
      rcases hrun : toolchain.execute request session.world with ⟨output, ran⟩
      rcases hrun' : other.execute request session'.world with ⟨output', ran'⟩
      rw [hrun, hrun'] at houtput hran
      obtain rfl : output = output' := houtput
      cases output with
      | error failure => exact ⟨rfl, hran, hcount⟩
      | ok output =>
        obtain ⟨hanswer, hstored⟩ := hcache.store hran request output.report
        simp only
        rcases hstore : cache.store (.ofRequest request) output.report ran with ⟨answer, stored⟩
        rcases hstore' : cache'.store (.ofRequest request) output.report ran'
          with ⟨answer', stored'⟩
        rw [hstore, hstore'] at hanswer hstored
        obtain rfl : answer = answer' := hanswer
        cases answer with
        | error failure => exact ⟨rfl, hstored, hcount⟩
        | ok _ => exact ⟨rfl, hstored, hcount⟩

/-- Requests that come one after the other are answered alike. -/
theorem simulates_calls (htoolchain : toolchain.Simulates related other)
    (hcache : cache.Simulates related cache') (h : session.Related related session')
    (requests : List Request) :
    ((Runner.cached toolchain cache).calls requests session).map Call.answer
        = ((Runner.cached other cache').calls requests session').map Call.answer ∧
      ((Runner.cached toolchain cache).afterAll requests session).Related related
        ((Runner.cached other cache').afterAll requests session') := by
  induction requests generalizing session session' with
  | nil => exact ⟨rfl, h⟩
  | cons request requests ih =>
    obtain ⟨hanswer, hafter⟩ := simulates_cached htoolchain hcache h request
    obtain ⟨hanswers, hlast⟩ := ih hafter
    simp only [Runner.calls, Runner.afterAll, List.map_cons, hanswer, hanswers]
    exact ⟨trivial, hlast⟩

/-! ## Pages -/

/-- A page comes out alike. -/
theorem simulates_weave (htoolchain : toolchain.Simulates related other)
    (hcache : cache.Simulates related cache') (h : session.Related related session')
    (options : Options) (content : Text) :
    let weaving := weave options (Runner.cached toolchain cache) content session
    let weaving' := weave options (Runner.cached other cache') content session'
    weaving.result = weaving'.result ∧ weaving.warnings = weaving'.warnings ∧
      weaving.session.Related related weaving'.session := by
  intro weaving weaving'
  obtain ⟨hanswers, hafter⟩ := simulates_calls htoolchain hcache h
    (asked options (Runner.cached other cache') content session')
  obtain ⟨hasked, hresult, hwarnings⟩ := weave_congr hanswers
  refine ⟨hresult, hwarnings, ?_⟩
  simp only [weaving, weaving', session_weave, hasked]
  exact hafter

/-- What the toolchains note is part of their worlds, so it is the same as well. -/
theorem simulates_toolchainLog (htoolchain : toolchain.Simulates related other)
    (hcache : cache.Simulates related cache') (h : session.Related related session')
    (options : Options) (content : Text) :
    toolchainLog options toolchain cache content session
      = toolchainLog options other cache' content session' := by
  -- with their logs, the worlds are related if they were and the logs are the same
  let relatedLogs (logged : Logged σ) (logged' : Logged τ) : Prop :=
    related logged.world logged'.world ∧ logged.log = logged'.log
  have htoolchain' : toolchain.logged.Simulates relatedLogs other.logged := by
    rintro logged logged' ⟨hworld, hlog⟩ request
    obtain ⟨houtput, hran⟩ := htoolchain hworld request
    exact ⟨houtput, hran, congrArg (· ++ [request]) hlog⟩
  have hcache' : cache.logged.Simulates relatedLogs cache'.logged := by
    constructor
    · rintro logged logged' ⟨hworld, -⟩ request
      exact hcache.load hworld request
    · rintro logged logged' ⟨hworld, hlog⟩ request report
      obtain ⟨hanswer, hstored⟩ := hcache.store hworld request report
      exact ⟨hanswer, hstored, hlog⟩
  have hstart : session.logged.Related relatedLogs session'.logged := ⟨⟨h.world, rfl⟩, h.stats⟩
  obtain ⟨-, -, hend⟩ := simulates_weave htoolchain' hcache' hstart options content
  exact hend.world.2

end

/-! ## The cache in memory -/

/-- A memory answers whatever it is asked, and remembers what was stored last. -/
theorem performAll_memory (operations : List Cache.Operation) (world : World τ) :
    (∀ answer ∈ (Cache.memory.performAll operations world).1, ∃ known, answer = .ok known) ∧
      ∀ key, (Cache.memory.performAll operations world).2.memory.get? key
        = (Cache.lastStored key operations <|> world.memory.get? key) := by
  induction operations generalizing world with
  | nil => exact ⟨by simp [Cache.performAll], fun key => by simp [Cache.performAll, Cache.lastStored]⟩
  | cons operation operations ih =>
    obtain ⟨hanswers, hmemory⟩ := ih (Cache.memory.perform operation world).2
    cases operation with
    | load request => exact ⟨List.forall_mem_cons.2 ⟨⟨_, rfl⟩, hanswers⟩, hmemory⟩
    | store request report =>
      refine ⟨List.forall_mem_cons.2 ⟨⟨_, rfl⟩, hanswers⟩, fun key => (hmemory key).trans ?_⟩
      simp only [Cache.perform, Cache.memory, Store.get?_insert, Cache.lastStored]
      cases Cache.lastStored key operations with
      | some last => rfl
      | none => split <;> rfl

/-- The toolchain that has a state of its own and no hold of anything else. -/
def Toolchain.aside (toolchain : Toolchain τ) : Toolchain (World τ) where
  execute request world :=
    ((toolchain.execute request world.tool).1,
      { world with tool := (toolchain.execute request world.tool).2 })

end Weave

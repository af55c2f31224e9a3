import Weave.Proofs.Serving

/-!
# Weave.Proofs.Journal — what was asked, and what reached the toolchain

Two records of a session, neither of which the session needs.

1. **Log**: a world with a log notes every request that its toolchain is given. It does what the
   bare world does (`logged_eq`, `calls_logged`).
2. **Calls**: the calls of a runner one after the other, each with its answer and with the sessions
   before and after it.
-/

namespace Weave

variable {σ : Type}

/-! ## The log of a toolchain -/

/-- A world with a log of the requests that its toolchain was given, the first one first. -/
structure Logged (σ : Type) where
  world : σ
  log : List Request

/-- The toolchain that notes every request that it is given. -/
def Toolchain.logged (toolchain : Toolchain σ) : Toolchain (Logged σ) where
  execute request logged :=
    ((toolchain.execute request logged.world).1,
      ⟨(toolchain.execute request logged.world).2, logged.log ++ [request]⟩)

/-- The cache of a world with a log. -/
def Cache.logged (cache : Cache σ) : Cache (Logged σ) where
  load key logged := cache.load key logged.world
  store key report logged :=
    ((cache.store key report logged.world).1,
      ⟨(cache.store key report logged.world).2, logged.log⟩)

/-- A session whose log is empty. -/
def Session.logged (session : Session σ) : Session (Logged σ) :=
  ⟨⟨session.world, []⟩, session.stats⟩

/-- A session without its log. -/
def Session.unlogged (session : Session (Logged σ)) : Session σ :=
  ⟨session.world.world, session.stats⟩

@[simp] theorem Session.unlogged_logged (session : Session σ) : session.logged.unlogged = session :=
  rfl

namespace Runner

/-- The runner that asks the cache first and keeps a log of the toolchain. -/
def logged (toolchain : Toolchain σ) (cache : Cache σ) : Runner (Logged σ) :=
  cached toolchain.logged cache.logged

variable (toolchain : Toolchain σ) (cache : Cache σ)

/-- The log makes no difference to the answer, nor to the session. -/
theorem logged_eq (request : Request) (session : Session (Logged σ)) :
    (logged toolchain cache request session).1
        = (cached toolchain cache request session.unlogged).1
      ∧ (logged toolchain cache request session).2.unlogged
        = (cached toolchain cache request session.unlogged).2 := by
  simp only [logged, cached, storing, Toolchain.logged, Cache.logged, Session.unlogged]
  cases cache.load (.ofRequest request) session.world.world with
  | error failure => exact ⟨rfl, rfl⟩
  | ok known =>
    cases known with
    | some report => exact ⟨rfl, rfl⟩
    | none =>
      rcases toolchain.execute request session.world.world with ⟨failure | output, ran⟩
      · exact ⟨rfl, rfl⟩
      · simp only
        rcases cache.store (.ofRequest request) output.report ran with ⟨failure | stored, world⟩
        · exact ⟨rfl, rfl⟩
        · exact ⟨rfl, rfl⟩

/-- A request reaches the toolchain exactly if the cache was read and knew nothing. -/
theorem log_logged (request : Request) (session : Session (Logged σ)) :
    (logged toolchain cache request session).2.world.log
      = session.world.log
        ++ if cache.lacks (.ofRequest request) session.world.world then [request] else [] := by
  have hserved := served toolchain.logged cache.logged request session
  change Served _ _ _ _ (logged toolchain cache request session) at hserved
  have hlacks : cache.lacks (.ofRequest request) session.world.world
      = cache.logged.lacks (.ofRequest request) session.world := rfl
  rw [hlacks]
  generalize logged toolchain cache request session = result at hserved ⊢
  cases hserved with
  | unread failure hload => simp [Cache.lacks, hload]
  | hit report hload => simp [Cache.lacks, hload]
  | failed failure world hload hrun =>
    have hlog : session.world.log ++ [request] = world.log := congrArg (·.2.log) hrun
    simp [Cache.lacks, hload, hlog]
  | unstored output failure ran world hload hrun hstore =>
    have hlog : session.world.log ++ [request] = ran.log := congrArg (·.2.log) hrun
    have hkept : ran.log = world.log := congrArg (·.2.log) hstore
    simp [Cache.lacks, hload, hlog, hkept]
  | stored output ran world hload hrun hstore =>
    have hlog : session.world.log ++ [request] = ran.log := congrArg (·.2.log) hrun
    have hkept : ran.log = world.log := congrArg (·.2.log) hstore
    simp [Cache.lacks, hload, hlog, hkept]

end Runner

/-! ## Calls -/

/-- A call of a runner: the request and its answer, and the sessions before and after. -/
structure Call (σ : Type) where
  request : Request
  before : Session σ
  answer : Except Failure Text
  after : Session σ

/-- The key of the request of a call. -/
def Call.key (call : Call σ) : CacheKey :=
  .ofRequest call.request

namespace Runner

/-- The calls of a runner for some requests, one after the other, whether they fail or not. -/
def calls (runner : Runner σ) : List Request → Session σ → List (Call σ)
  | [], _ => []
  | request :: requests, session =>
    ⟨request, session, (runner request session).1, (runner request session).2⟩
      :: calls runner requests (runner request session).2

/-- The session after some requests. -/
def afterAll (runner : Runner σ) : List Request → Session σ → Session σ
  | [], session => session
  | request :: requests, session => afterAll runner requests (runner request session).2

variable {runner : Runner σ}

/-- There is one call for each request. -/
theorem map_request_calls {requests : List Request} {session : Session σ} :
    (runner.calls requests session).map Call.request = requests := by
  induction requests generalizing session with
  | nil => rfl
  | cons request requests ih => rw [calls, List.map_cons, ih]

theorem length_calls (requests : List Request) (session : Session σ) :
    (runner.calls requests session).length = requests.length := by
  rw [← List.length_map Call.request, map_request_calls]

theorem calls_append (earlier later : List Request) (session : Session σ) :
    runner.calls (earlier ++ later) session
      = runner.calls earlier session ++ runner.calls later (runner.afterAll earlier session) := by
  induction earlier generalizing session with
  | nil => rfl
  | cons request earlier ih => simp only [List.cons_append, calls, afterAll, ih]

theorem afterAll_append (earlier later : List Request) (session : Session σ) :
    runner.afterAll (earlier ++ later) session
      = runner.afterAll later (runner.afterAll earlier session) := by
  induction earlier generalizing session with
  | nil => rfl
  | cons request earlier ih => simp only [List.cons_append, afterAll, ih]

/-- Requests lead where each of them leads, one after the other. -/
theorem leads_afterAll (Leads : σ → σ → Prop) (hrefl : ∀ world, Leads world world)
    (htrans : ∀ {first second third}, Leads first second → Leads second third → Leads first third)
    (hrunner : ∀ request session, Leads session.world (runner request session).2.world)
    (requests : List Request) (session : Session σ) :
    Leads session.world (runner.afterAll requests session).world := by
  induction requests generalizing session with
  | nil => exact hrefl session.world
  | cons request requests ih => exact htrans (hrunner request session) (ih _)

/-- What every call adds one to, if it is of some sort, grows by the number of calls of that
sort. -/
theorem count_afterAll (count : Session σ → Nat) (sort : Call σ → Bool)
    (hcall : ∀ request session, count (runner request session).2 = count session
      + (sort ⟨request, session, (runner request session).1, (runner request session).2⟩).toNat)
    (requests : List Request) (session : Session σ) :
    count (runner.afterAll requests session)
      = count session + (runner.calls requests session).countP sort := by
  induction requests generalizing session with
  | nil => rfl
  | cons request requests ih =>
    rw [afterAll, ih, hcall, calls, List.countP_cons]
    cases hsort : sort ⟨request, session, (runner request session).1, (runner request session).2⟩
    · simp
    · simp only [Bool.toNat_true, if_pos]
      omega

/-- A call is what the runner does. -/
theorem eq_of_mem_calls {requests : List Request} {session : Session σ} :
    ∀ call ∈ runner.calls requests session,
      runner call.request call.before = (call.answer, call.after) := by
  induction requests generalizing session with
  | nil => simp [calls]
  | cons request requests ih =>
    intro call hcall
    rcases List.mem_cons.1 hcall with rfl | hcall
    · rfl
    · exact ih call hcall

/-- The first call starts where the calls start. -/
theorem before_of_calls_eq_cons {requests : List Request} {session : Session σ} {call : Call σ}
    {rest : List (Call σ)} (h : runner.calls requests session = call :: rest) :
    call.before = session ∧ ∃ later, rest = runner.calls later call.after := by
  cases requests with
  | nil => simp [calls] at h
  | cons request requests =>
    simp only [calls, List.cons.injEq] at h
    obtain ⟨rfl, rfl⟩ := h
    exact ⟨rfl, requests, rfl⟩

/-- The calls below a call are calls from the session that it left. -/
theorem calls_of_append {requests : List Request} {session : Session σ} {call : Call σ}
    {first rest : List (Call σ)} (h : runner.calls requests session = first ++ call :: rest) :
    ∃ later, rest = runner.calls later call.after := by
  induction first generalizing requests session with
  | nil => exact (before_of_calls_eq_cons h).2
  | cons other first ih =>
    obtain ⟨later, hlater⟩ := (before_of_calls_eq_cons h).2
    exact ih hlater.symm

end Runner

/-- The log makes no difference to a sequence of calls. -/
theorem calls_logged (toolchain : Toolchain σ) (cache : Cache σ) (requests : List Request)
    (session : Session (Logged σ)) :
    ((Runner.logged toolchain cache).calls requests session).map Call.answer
        = ((Runner.cached toolchain cache).calls requests session.unlogged).map Call.answer
      ∧ ((Runner.logged toolchain cache).afterAll requests session).unlogged
        = (Runner.cached toolchain cache).afterAll requests session.unlogged := by
  induction requests generalizing session with
  | nil => exact ⟨rfl, rfl⟩
  | cons request requests ih =>
    obtain ⟨hanswer, hsession⟩ := Runner.logged_eq toolchain cache request session
    obtain ⟨hanswers, hfinal⟩ := ih (Runner.logged toolchain cache request session).2
    rw [hsession] at hanswers hfinal
    constructor
    · simp only [Runner.calls, List.map_cons, hanswer, hanswers]
    · simp only [Runner.afterAll, hfinal]

end Weave

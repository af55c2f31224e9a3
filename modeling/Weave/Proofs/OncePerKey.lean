import Weave.Proofs.Journal
import Weave.Script

/-!
# Weave.Proofs.OncePerKey — each key is run at most once

A runner with a cache is called for any requests in any order, some of which may fail. `OncePerKey`
says what then holds of the toolchain, of the answers and of the counters; `calls_oncePerKey` proves
it of every toolchain and of every cache that keeps its entries, that in memory among them.

* `load_of_calls`: what is known at the start is known at every call.
* `load_until`: only a call with its key can change an entry.
* `load_of_failed_until`: after a failure its entry is the same when its key comes again.
* `pairwise_calls`: what was answered once is answered again, by the cache.
-/

namespace Weave

variable {σ : Type}

/-! ## Entries along calls -/

namespace Runner

variable {toolchain : Toolchain σ} {cache : Cache σ} {requests : List Request}
  {session : Session σ}

/-- What is known at the start is known at every call. -/
theorem load_of_calls (hcache : cache.Keeps toolchain) {k : CacheKey} {report : Text}
    (hload : cache.load k session.world = .ok (some report)) :
    ∀ call ∈ (cached toolchain cache).calls requests session,
      cache.load k call.before.world = .ok (some report) := by
  induction requests generalizing session with
  | nil => simp [calls]
  | cons request requests ih =>
    intro call hcall
    rcases List.mem_cons.1 hcall with rfl | hcall
    · exact hload
    · exact ih (load_of_load hcache hload) call hcall

/-- A request with another key changes no entry. -/
theorem load_of_ne (hcache : cache.Keeps toolchain) {request : Request} {k : CacheKey}
    (hne : CacheKey.ofRequest request ≠ k) (session : Session σ) :
    cache.load k (cached toolchain cache request session).2.world
      = cache.load k session.world := by
  cases hanswer : (cached toolchain cache request session).1 with
  | error failure => exact load_of_error hcache hanswer k
  | ok report => rw [load_of_ok hcache hanswer, if_neg (Ne.symm hne)]

/-- Up to the next call with its key an entry stays as it is. -/
theorem load_until (hcache : cache.Keeps toolchain) {k : CacheKey}
    {between rest : List (Call σ)} {call : Call σ}
    (hcalls : (cached toolchain cache).calls requests session = between ++ call :: rest)
    (hbetween : ∀ other ∈ between, other.key ≠ k) :
    cache.load k call.before.world = cache.load k session.world := by
  induction between generalizing requests session with
  | nil => rw [(before_of_calls_eq_cons hcalls).1]
  | cons other between ih =>
    obtain ⟨hbefore, later, hlater⟩ := before_of_calls_eq_cons hcalls
    have hother : other ∈ (cached toolchain cache).calls requests session := by
      rw [hcalls]
      simp
    have hrun := eq_of_mem_calls other hother
    rw [ih hlater.symm fun x hx => hbetween x (by simp [hx])]
    have hkept := load_of_ne hcache (hbetween other (by simp)) other.before
    rw [hrun, hbefore] at hkept
    exact hkept

/-- A call whose key is known is answered by what is known and leaves the world as it is. -/
theorem answer_of_load {k : CacheKey} {report : Text} {call : Call σ}
    (hcall : call ∈ (cached toolchain cache).calls requests session) (hkey : call.key = k)
    (hload : cache.load k call.before.world = .ok (some report)) :
    call.answer = .ok report ∧ call.after.world = call.before.world := by
  subst hkey
  have hrun := eq_of_mem_calls call hcall
  rw [cached_of_load hload] at hrun
  obtain ⟨hanswer, hafter⟩ := Prod.mk.inj hrun
  exact ⟨hanswer.symm, by rw [← hafter]⟩

/-- A call that fails leaves every entry as it was. -/
theorem load_of_failed (hcache : cache.Keeps toolchain) {call : Call σ} {failure : Failure}
    (hcall : call ∈ (cached toolchain cache).calls requests session)
    (hanswer : call.answer = .error failure) (k : CacheKey) :
    cache.load k call.after.world = cache.load k call.before.world := by
  have hrun := eq_of_mem_calls call hcall
  have hfailed : (cached toolchain cache call.request call.before).1 = .error failure := by
    rw [hrun]
    exact hanswer
  have hkept := load_of_error hcache hfailed k
  rw [hrun] at hkept
  exact hkept

/-- After a call that failed, its entry is the same when its key comes again. -/
theorem load_of_failed_until (hcache : cache.Keeps toolchain) {call next : Call σ}
    {failure : Failure} {above between below : List (Call σ)}
    (hcalls : (cached toolchain cache).calls requests session
      = above ++ call :: (between ++ next :: below))
    (hanswer : call.answer = .error failure)
    (hbetween : ∀ other ∈ between, other.key ≠ call.key) :
    cache.load call.key next.before.world = cache.load call.key call.before.world := by
  have hcall : call ∈ (cached toolchain cache).calls requests session := by
    rw [hcalls]
    simp
  obtain ⟨later, hlater⟩ := calls_of_append hcalls
  rw [load_until hcache hlater.symm hbetween]
  exact load_of_failed hcache hcall hanswer call.key

/-- What was answered once is answered again, and by the cache. -/
theorem pairwise_calls (hcache : cache.Keeps toolchain) :
    ((cached toolchain cache).calls requests session).Pairwise fun earlier later =>
      earlier.key = later.key → ∀ report, earlier.answer = .ok report →
        cache.load later.key later.before.world = .ok (some report) := by
  induction requests generalizing session with
  | nil => exact List.Pairwise.nil
  | cons request requests ih =>
    refine List.pairwise_cons.2 ⟨?_, ih⟩
    intro later hlater hkey report hanswer
    refine load_of_calls hcache ?_ later hlater
    rw [load_of_ok hcache hanswer, if_pos]
    exact hkey.symm

end Runner

/-! ## The laws -/

/-- Whether the request of a call reached the toolchain: the cache was read and knew nothing. -/
def Call.missed (cache : Cache σ) (call : Call (Logged σ)) : Bool :=
  cache.lacks call.key call.before.world.world

/-- Whether the cache knew the answer to a call. -/
def Call.known (cache : Cache σ) (call : Call (Logged σ)) : Bool :=
  cache.knows call.key call.before.world.world

/-- Whether the cache could be read for a call. -/
def Call.read (cache : Cache σ) (call : Call (Logged σ)) : Bool :=
  cache.reads call.key call.before.world.world

/-- Whether a call ran a request with a key and stored its report. -/
def Call.stored (cache : Cache σ) (key : CacheKey) (call : Call (Logged σ)) : Bool :=
  call.key = key && call.missed cache && call.answer.isOk

theorem Call.stored_iff {cache : Cache σ} {key : CacheKey} {call : Call (Logged σ)} :
    call.stored cache key = true
      ↔ call.key = key ∧ call.missed cache = true ∧ ∃ report, call.answer = .ok report := by
  unfold stored
  cases call.answer <;> simp [Except.isOk, Except.toBool]

/-- What holds of some calls from the session `start` on, `final` being the session after them. -/
structure OncePerKey (cache : Cache σ) (start : Session σ) (calls : List (Call (Logged σ)))
    (final : Session (Logged σ)) : Prop where
  /-- The toolchain is given the requests whose keys were unknown when they came, and no others. -/
  log : final.world.log = (calls.filter (Call.missed cache)).map Call.request
  /-- A key that is known is answered by what is known, and the toolchain is left alone. -/
  known : ∀ call ∈ calls, ∀ report,
    cache.load call.key call.before.world.world = .ok (some report) →
      call.answer = .ok report ∧ call.after.world = call.before.world
  /-- What was known at the start is the answer to every call with its key. -/
  initial : ∀ key report, cache.load key start.world = .ok (some report) →
    ∀ call ∈ calls, call.key = key →
      call.answer = .ok report ∧ call.after.world = call.before.world
  /-- What was answered once is the answer ever after, and the toolchain is left alone. -/
  first : calls.Pairwise fun earlier later =>
    earlier.key = later.key → ∀ report, earlier.answer = .ok report →
      later.answer = .ok report ∧ later.after.world = later.before.world
  /-- No key is run and stored twice. -/
  once : ∀ key, calls.countP (Call.stored cache key) ≤ 1
  /-- A call that fails leaves every entry as it was. -/
  unchanged : ∀ call ∈ calls, ∀ failure, call.answer = .error failure →
    ∀ key, cache.load key call.after.world.world = cache.load key call.before.world.world
  /-- A request that failed is run again when its key comes again. -/
  again : ∀ above call between next below,
    calls = above ++ call :: (between ++ next :: below) →
    call.missed cache = true → (∃ failure, call.answer = .error failure) →
    (∀ other ∈ between, other.key ≠ call.key) → next.key = call.key →
      next.missed cache = true
  /-- Every request that reached the toolchain is counted, whether it failed or not. -/
  runs : final.stats.runs = start.stats.runs + final.world.log.length
  /-- Every call that the cache answered is counted. -/
  hits : final.stats.hits = start.stats.hits + calls.countP (Call.known cache)
  /-- All calls are counted for which the cache could be read. -/
  sum : final.stats.runs + final.stats.hits
    = start.stats.runs + start.stats.hits + calls.countP (Call.read cache)

/-! ## Counting and logging along calls -/

namespace Runner

/-- What reaches the toolchain along calls are the requests that the cache did not know. -/
theorem log_afterAll (toolchain : Toolchain σ) (cache : Cache σ) (requests : List Request)
    (session : Session (Logged σ)) :
    ((logged toolchain cache).afterAll requests session).world.log
      = session.world.log
        ++ (((logged toolchain cache).calls requests session).filter
          (Call.missed cache)).map Call.request := by
  induction requests generalizing session with
  | nil => simp [afterAll, calls]
  | cons request requests ih =>
    rw [afterAll, ih, log_logged, calls, List.filter_cons, List.append_assoc]
    cases hlacks : cache.lacks (.ofRequest request) session.world.world <;>
      simp [Call.missed, Call.key, hlacks]

end Runner

/-- A cache that can be read knows a report or lacks it. -/
theorem countP_read (cache : Cache σ) (calls : List (Call (Logged σ))) :
    calls.countP (Call.read cache)
      = calls.countP (Call.missed cache) + calls.countP (Call.known cache) := by
  induction calls with
  | nil => rfl
  | cons call calls ih =>
    have hread : (call.read cache).toNat
        = (call.missed cache).toNat + (call.known cache).toNat :=
      cache.toNat_reads call.key call.before.world.world
    rw [List.countP_cons, List.countP_cons, List.countP_cons, ih]
    cases hmissed : call.missed cache <;> cases hknown : call.known cache <;>
      cases hcall : call.read cache <;> simp [hmissed, hknown, hcall] at hread ⊢ <;> omega

/-- What rules itself out for the rest of a list happens at most once. -/
theorem countP_le_one {α : Type} {p : α → Bool} {xs : List α}
    (h : xs.Pairwise fun earlier later => p earlier = true → p later = false) :
    xs.countP p ≤ 1 := by
  induction xs with
  | nil => simp
  | cons x xs ih =>
    obtain ⟨hx, hxs⟩ := List.pairwise_cons.1 h
    rw [List.countP_cons]
    by_cases hp : p x = true
    · have hnone : xs.countP p = 0 :=
        List.countP_eq_zero.2 fun y hy => by simp [hx y hy hp]
      simp [hp, hnone]
    · simpa [hp] using ih hxs

/-! ## The laws hold -/

variable {toolchain : Toolchain σ} {cache : Cache σ}

theorem Cache.Keeps.logged (hcache : cache.Keeps toolchain) :
    cache.logged.Keeps toolchain.logged where
  stored hstore k := by
    obtain ⟨hok, hworld⟩ := Prod.mk.inj hstore
    exact hcache.stored (Prod.ext hok (congrArg Logged.world hworld)) k
  unstored hstore k := by
    obtain ⟨herror, hworld⟩ := Prod.mk.inj hstore
    exact hcache.unstored (Prod.ext herror (congrArg Logged.world hworld)) k
  executed request logged k := hcache.executed request logged.world k

/-- A key that is known is not missing. -/
theorem Call.missed_of_load {call : Call (Logged σ)} {report : Text}
    (hload : cache.load call.key call.before.world.world = .ok (some report)) :
    call.missed cache = false := by
  simp [Call.missed, Cache.lacks, hload]

/-- Whatever is asked in whatever order: each key is run until it succeeds and never again, and
all that is asked is counted. The log that shows this makes no difference to the answers, nor to
the session. -/
theorem calls_oncePerKey (hcache : cache.Keeps toolchain) (requests : List Request)
    (session : Session σ) :
    let runner := Runner.logged toolchain cache
    OncePerKey cache session (runner.calls requests session.logged)
        (runner.afterAll requests session.logged) ∧
      (runner.calls requests session.logged).map Call.request = requests ∧
      (runner.calls requests session.logged).map Call.answer
        = ((Runner.cached toolchain cache).calls requests session).map Call.answer ∧
      (runner.afterAll requests session.logged).unlogged
        = (Runner.cached toolchain cache).afterAll requests session := by
  intro runner
  have hkeeps : cache.logged.Keeps toolchain.logged := hcache.logged
  have hpairs : (runner.calls requests session.logged).Pairwise fun earlier later =>
      earlier.key = later.key → ∀ report, earlier.answer = .ok report →
        cache.load later.key later.before.world.world = .ok (some report) :=
    Runner.pairwise_calls hkeeps
  have hlog : (runner.afterAll requests session.logged).world.log
      = ((runner.calls requests session.logged).filter (Call.missed cache)).map Call.request :=
    Runner.log_afterAll toolchain cache requests session.logged
  have hruns : (runner.afterAll requests session.logged).stats.runs = session.stats.runs
      + (runner.calls requests session.logged).countP (Call.missed cache) :=
    Runner.count_afterAll (·.stats.runs) (Call.missed cache)
      (Runner.runs_cached toolchain.logged cache.logged) requests session.logged
  have hhits : (runner.afterAll requests session.logged).stats.hits = session.stats.hits
      + (runner.calls requests session.logged).countP (Call.known cache) :=
    Runner.count_afterAll (·.stats.hits) (Call.known cache)
      (Runner.hits_cached toolchain.logged cache.logged) requests session.logged
  refine ⟨?_, Runner.map_request_calls, calls_logged toolchain cache requests session.logged⟩
  constructor
  case log => exact hlog
  case known =>
    intro call hcall report hload
    exact Runner.answer_of_load hcall rfl hload
  case initial =>
    intro key report hload call hcall hkey
    have hinitial : cache.logged.load key session.logged.world = .ok (some report) := hload
    exact Runner.answer_of_load hcall hkey (Runner.load_of_calls hkeeps hinitial call hcall)
  case first =>
    refine hpairs.imp_of_mem ?_
    intro earlier later hearlier hlater hload hkey report hanswer
    exact Runner.answer_of_load hlater rfl (hload hkey report hanswer)
  case once =>
    -- what was stored once is known ever after, so it does not reach the toolchain
    intro key
    refine countP_le_one (hpairs.imp ?_)
    intro earlier later hload hstored
    obtain ⟨hkey, -, report, hanswer⟩ := Call.stored_iff.1 hstored
    refine Bool.eq_false_iff.2 fun hagain => ?_
    obtain ⟨hlater, hmissed, -⟩ := Call.stored_iff.1 hagain
    rw [Call.missed_of_load (hload (hkey.trans hlater.symm) report hanswer)] at hmissed
    cases hmissed
  case unchanged =>
    intro call hcall failure hanswer key
    exact Runner.load_of_failed hkeeps hcall hanswer key
  case again =>
    -- nothing changes the entry between a failure and the next call with its key
    intro above call between next below hcalls hmissed ⟨failure, hanswer⟩ hbetween hkey
    have hkept : cache.load call.key next.before.world.world
        = cache.load call.key call.before.world.world :=
      Runner.load_of_failed_until hkeeps hcalls hanswer hbetween
    rw [Call.missed, Cache.lacks_iff] at hmissed ⊢
    rw [hkey, hkept, hmissed]
  case runs => rw [hruns, hlog, List.length_map, List.countP_eq_length_filter]
  case hits => exact hhits
  case sum =>
    rw [hruns, hhits, countP_read]
    omega

/-- The scripted toolchain has no hold of what is remembered. -/
theorem Toolchain.scripted_leavesMemory : Toolchain.scripted.LeavesMemory :=
  fun _ _ => rfl

/-- A request that fails once, is run again and then known, with one that was known before. -/
theorem calls_oncePerKey_retry :
    let session : Session (World Script) := .start
      ⟨.blank [], Store.empty.insert (.ofRequest ⟨.test, "b".toList⟩) "known".toList,
        .ofResponses [⟨none, some "a".toList, true, .failure "1".toList "no".toList⟩]⟩
    let runner := Runner.logged Toolchain.scripted Cache.memory
    let requests : List Request := [⟨.run, "a".toList⟩, ⟨.test, "b".toList⟩, ⟨.run, "a".toList⟩,
      ⟨.test, "a".toList⟩, ⟨.run, "a".toList⟩]
    Cache.memory.Keeps Toolchain.scripted ∧
      OncePerKey Cache.memory session (runner.calls requests session.logged)
        (runner.afterAll requests session.logged) := by
  intro session runner requests
  have hcache : Cache.memory.Keeps Toolchain.scripted :=
    Cache.memory_keeps Toolchain.scripted_leavesMemory
  exact ⟨hcache, (calls_oncePerKey hcache requests session).1⟩

end Weave

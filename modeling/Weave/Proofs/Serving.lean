import Weave.World

/-!
# Weave.Proofs.Serving — how one request is answered

`Runner.cached` has five ways to end, which `Served` lists; everything about it follows from
them. A cache `Keeps` what it holds if its entries change by successful stores alone.

1. **One request**: `served`, and what is counted for it (`runs_cached`, `hits_cached`).
2. **Entries**: `load_of_error`, `load_of_ok`: a failure changes no entry, and an answer is there
   afterwards, under its own key and no other.
3. **Once known**: `load_of_load`, `cached_of_load`: a key stays known and is answered by what is
   known.
-/

namespace Weave

variable {σ : Type}

namespace Runner

/-! ## The ways to end -/

/-- How a request was answered, and the session that it left. -/
inductive Served (toolchain : Toolchain σ) (cache : Cache σ) (request : Request)
    (session : Session σ) : Except Failure Text × Session σ → Prop where
  /-- The cache cannot be read. -/
  | unread (failure : Failure)
      (hload : cache.load (.ofRequest request) session.world = .error failure) :
      Served toolchain cache request session (.error failure, session)
  /-- The cache knows the report. -/
  | hit (report : Text)
      (hload : cache.load (.ofRequest request) session.world = .ok (some report)) :
      Served toolchain cache request session
        (.ok report, ⟨session.world, session.stats.countHit⟩)
  /-- The toolchain fails. -/
  | failed (failure : Failure) (world : σ)
      (hload : cache.load (.ofRequest request) session.world = .ok none)
      (hrun : toolchain.execute request session.world = (.error failure, world)) :
      Served toolchain cache request session (.error failure, ⟨world, session.stats.countRun⟩)
  /-- The report cannot be stored. -/
  | unstored (output : ToolOutput) (failure : Failure) (ran world : σ)
      (hload : cache.load (.ofRequest request) session.world = .ok none)
      (hrun : toolchain.execute request session.world = (.ok output, ran))
      (hstore : cache.store (.ofRequest request) output.report ran = (.error failure, world)) :
      Served toolchain cache request session (.error failure, ⟨world, session.stats.countRun⟩)
  /-- The request is run and its report stored. -/
  | stored (output : ToolOutput) (ran world : σ)
      (hload : cache.load (.ofRequest request) session.world = .ok none)
      (hrun : toolchain.execute request session.world = (.ok output, ran))
      (hstore : cache.store (.ofRequest request) output.report ran = (.ok (), world)) :
      Served toolchain cache request session
        (.ok output.report, ⟨world, session.stats.countRun⟩)

theorem served (toolchain : Toolchain σ) (cache : Cache σ) (request : Request)
    (session : Session σ) :
    Served toolchain cache request session (cached toolchain cache request session) := by
  unfold cached
  split
  · next failure hload => exact .unread failure hload
  · next report hload => exact .hit report hload
  · next hload =>
    unfold storing
    split
    · next failure world hrun => exact .failed failure world hload hrun
    · next output ran hrun =>
      split
      · next failure world hstore => exact .unstored output failure ran world hload hrun hstore
      · next world hstore => exact .stored output ran world hload hrun hstore

/-- A request leads where its toolchain leads and then its cache. -/
theorem leads_cached {toolchain : Toolchain σ} {cache : Cache σ} (Leads : σ → σ → Prop)
    (hrefl : ∀ world, Leads world world)
    (htrans : ∀ {first second third}, Leads first second → Leads second third → Leads first third)
    (hrun : ∀ request world, Leads world (toolchain.execute request world).2)
    (hstore : ∀ request report world,
      Leads world (cache.store (.ofRequest request) report world).2)
    (request : Request) (session : Session σ) :
    Leads session.world (cached toolchain cache request session).2.world := by
  have hran := hrun request session.world
  have hserved := served toolchain cache request session
  generalize cached toolchain cache request session = result at hserved ⊢
  cases hserved with
  | unread failure hload => exact hrefl session.world
  | hit report hload => exact hrefl session.world
  | failed failure world hload hrun' => rwa [hrun'] at hran
  | unstored output failure ran world hload hrun' hstore' =>
    have hstored := hstore request output.report ran
    rw [hrun'] at hran
    rw [hstore'] at hstored
    exact htrans hran hstored
  | stored output ran world hload hrun' hstore' =>
    have hstored := hstore request output.report ran
    rw [hrun'] at hran
    rw [hstore'] at hstored
    exact htrans hran hstored

end Runner

/-! ## Counters -/

/-- Whether a cache can be read at a key and knows nothing there. -/
def Cache.lacks (cache : Cache σ) (key : CacheKey) (world : σ) : Bool :=
  match cache.load key world with
  | .ok Option.none => true
  | _ => false

/-- Whether a cache can be read at a key and knows a report there. -/
def Cache.knows (cache : Cache σ) (key : CacheKey) (world : σ) : Bool :=
  match cache.load key world with
  | .ok (some _) => true
  | _ => false

/-- Whether a cache can be read at a key. -/
def Cache.reads (cache : Cache σ) (key : CacheKey) (world : σ) : Bool :=
  match cache.load key world with
  | .ok _ => true
  | .error _ => false

theorem Cache.lacks_iff {cache : Cache σ} {key : CacheKey} {world : σ} :
    cache.lacks key world = true ↔ cache.load key world = .ok Option.none := by
  unfold lacks
  split <;> simp_all

/-- A cache that can be read knows a report or lacks it, and not both. -/
theorem Cache.toNat_reads (cache : Cache σ) (key : CacheKey) (world : σ) :
    (cache.reads key world).toNat
      = (cache.lacks key world).toNat + (cache.knows key world).toNat := by
  cases hload : cache.load key world with
  | error failure => simp [reads, lacks, knows, hload]
  | ok known => cases known <;> simp [reads, lacks, knows, hload]

namespace Runner

variable (toolchain : Toolchain σ) (cache : Cache σ) (request : Request) (session : Session σ)

/-- A run is counted exactly if the cache was read and knew nothing. -/
theorem runs_cached :
    (cached toolchain cache request session).2.stats.runs
      = session.stats.runs + (cache.lacks (.ofRequest request) session.world).toNat := by
  have hserved := served toolchain cache request session
  generalize cached toolchain cache request session = result at hserved ⊢
  cases hserved with
  | unread failure hload => simp [Cache.lacks, hload]
  | hit report hload => simp [Cache.lacks, hload, Stats.countHit]
  | failed failure world hload hrun => simp [Cache.lacks, hload, Stats.countRun]
  | unstored output failure ran world hload hrun hstore =>
    simp [Cache.lacks, hload, Stats.countRun]
  | stored output ran world hload hrun hstore => simp [Cache.lacks, hload, Stats.countRun]

/-- A hit is counted exactly if the cache knew a report. -/
theorem hits_cached :
    (cached toolchain cache request session).2.stats.hits
      = session.stats.hits + (cache.knows (.ofRequest request) session.world).toNat := by
  have hserved := served toolchain cache request session
  generalize cached toolchain cache request session = result at hserved ⊢
  cases hserved with
  | unread failure hload => simp [Cache.knows, hload]
  | hit report hload => simp [Cache.knows, hload, Stats.countHit]
  | failed failure world hload hrun => simp [Cache.knows, hload, Stats.countRun]
  | unstored output failure ran world hload hrun hstore =>
    simp [Cache.knows, hload, Stats.countRun]
  | stored output ran world hload hrun hstore => simp [Cache.knows, hload, Stats.countRun]

end Runner

/-! ## Entries -/

/-- The entries of a cache change by successful stores alone. A store puts its report under its key
and leaves the other keys as they are; a store that fails changes no key, and neither does the
toolchain, which has no hold of the cache. -/
structure Cache.Keeps (cache : Cache σ) (toolchain : Toolchain σ) : Prop where
  stored : ∀ {key report world world'}, cache.store key report world = (.ok (), world') →
    ∀ k, cache.load k world' = if k = key then .ok (some report) else cache.load k world
  unstored : ∀ {key report world failure world'},
    cache.store key report world = (.error failure, world') →
    ∀ k, cache.load k world' = cache.load k world
  executed : ∀ request world k,
    cache.load k (toolchain.execute request world).2 = cache.load k world

namespace Runner

variable {toolchain : Toolchain σ} {cache : Cache σ} {request : Request} {session : Session σ}

/-- A request that fails leaves every entry as it was. -/
theorem load_of_error (hcache : cache.Keeps toolchain) {failure : Failure}
    (hanswer : (cached toolchain cache request session).1 = .error failure) (k : CacheKey) :
    cache.load k (cached toolchain cache request session).2.world
      = cache.load k session.world := by
  have hserved := served toolchain cache request session
  generalize cached toolchain cache request session = result at hserved hanswer ⊢
  cases hserved with
  | unread failure hload => rfl
  | hit report hload => cases hanswer
  | failed failure world hload hrun =>
    have hkept := hcache.executed request session.world k
    rwa [hrun] at hkept
  | unstored output failure ran world hload hrun hstore =>
    have hkept := hcache.executed request session.world k
    rw [hrun] at hkept
    exact (hcache.unstored hstore k).trans hkept
  | stored output ran world hload hrun hstore => cases hanswer

/-- A request that is answered leaves its answer under its key, and the other keys as they were. -/
theorem load_of_ok (hcache : cache.Keeps toolchain) {report : Text}
    (hanswer : (cached toolchain cache request session).1 = .ok report) (k : CacheKey) :
    cache.load k (cached toolchain cache request session).2.world
      = if k = .ofRequest request then .ok (some report) else cache.load k session.world := by
  have hserved := served toolchain cache request session
  generalize cached toolchain cache request session = result at hserved hanswer ⊢
  cases hserved with
  | unread failure hload => cases hanswer
  | hit known hload =>
    cases hanswer
    by_cases hk : k = .ofRequest request
    · rw [if_pos hk, hk]
      exact hload
    · rw [if_neg hk]
  | failed failure world hload hrun => cases hanswer
  | unstored output failure ran world hload hrun hstore => cases hanswer
  | stored output ran world hload hrun hstore =>
    cases hanswer
    have hkept := hcache.executed request session.world k
    rw [hrun] at hkept
    rw [hcache.stored hstore k, hkept]

/-- What is known under a key stays known, whatever request comes. -/
theorem load_of_load (hcache : cache.Keeps toolchain) {k : CacheKey} {report : Text}
    (hload : cache.load k session.world = .ok (some report)) :
    cache.load k (cached toolchain cache request session).2.world = .ok (some report) := by
  cases hanswer : (cached toolchain cache request session).1 with
  | error failure => rw [load_of_error hcache hanswer, hload]
  | ok answer =>
    rw [load_of_ok hcache hanswer]
    by_cases hk : k = .ofRequest request
    · -- the request has this very key, so it was answered by what was known
      rw [if_pos hk]
      rw [hk] at hload
      simp only [cached, hload, Except.ok.injEq] at hanswer
      rw [hanswer]
    · rw [if_neg hk, hload]

/-- A request whose key is known is answered by what is known; only the hit is counted. -/
theorem cached_of_load {report : Text}
    (hload : cache.load (.ofRequest request) session.world = .ok (some report)) :
    cached toolchain cache request session
      = (.ok report, ⟨session.world, session.stats.countHit⟩) := by
  simp only [cached, hload]

end Runner

/-! ## The cache in memory -/

/-- The toolchain has no hold of what is remembered. -/
def Toolchain.LeavesMemory {τ : Type} (toolchain : Toolchain (World τ)) : Prop :=
  ∀ request world, (toolchain.execute request world).2.memory = world.memory

/-- The cache in memory keeps its entries, whatever they are at the start. -/
theorem Cache.memory_keeps {τ : Type} {toolchain : Toolchain (World τ)}
    (hmemory : toolchain.LeavesMemory) : Cache.memory.Keeps toolchain where
  stored hstore k := by
    obtain ⟨-, rfl⟩ := Prod.mk.inj hstore
    simp only [memory, Store.get?_insert]
    split <;> rfl
  unstored hstore := by cases hstore
  executed request world k := by
    simp only [memory, hmemory request world]

end Weave

import Weave.CacheKey
import Weave.Failure
import Weave.Report

/-!
# Weave.Session — running requests, each at most once

A toolchain runs requests and a cache keeps reports under the keys of requests; both act on the
same world. `Runner.cached` asks the cache first. Only a report of a successful run is stored, so
that a request that failed is run again the next time.
-/

namespace Weave

/-! ## Toolchains and caches -/

/-- Something that runs requests in a world. -/
structure Toolchain (σ : Type) where
  execute : Request → σ → Except Failure ToolOutput × σ

/-- Something that keeps reports in a world. Looking one up changes nothing. -/
structure Cache (σ : Type) where
  load : CacheKey → σ → Except Failure (Option Text)
  store : CacheKey → Text → σ → Except Failure Unit × σ

/-- The cache that keeps nothing. -/
def Cache.none {σ : Type} : Cache σ where
  load _ _ := .ok Option.none
  store _ _ world := (.ok (), world)

/-! ## Counters -/

/-- How many requests were run, and how many were answered by the cache. -/
structure Stats where
  runs : Nat
  hits : Nat
deriving Repr, DecidableEq, Inhabited

namespace Stats

def zero : Stats :=
  ⟨0, 0⟩

/-- What was counted after `earlier`. No difference is below zero. -/
def since (now earlier : Stats) : Stats :=
  ⟨now.runs - earlier.runs, now.hits - earlier.hits⟩

/-- One more request was run. -/
def countRun (stats : Stats) : Stats :=
  { stats with runs := stats.runs + 1 }

/-- One more request was answered by the cache. -/
def countHit (stats : Stats) : Stats :=
  { stats with hits := stats.hits + 1 }

end Stats

/-! ## Sessions and runners -/

/-- A world in which requests are run, with the counters of the requests so far. -/
structure Session (σ : Type) where
  world : σ
  stats : Stats
deriving Repr

/-- A session in which nothing was counted. -/
def Session.start {σ : Type} (world : σ) : Session σ :=
  ⟨world, .zero⟩

/-- How requests are answered in a world: by a report or by a failure. -/
abbrev Runner (σ : Type) : Type :=
  Request → Session σ → Except Failure Text × Session σ

namespace Runner

/-- Runs a request that the cache does not know and stores its report. -/
def storing {σ : Type} (toolchain : Toolchain σ) (cache : Cache σ) : Runner σ :=
  fun request session =>
    match toolchain.execute request session.world with
    | (.error failure, world) => (.error failure, ⟨world, session.stats.countRun⟩)
    -- a report that cannot be stored fails the request, though it was run
    | (.ok output, world) =>
      match cache.store (.ofRequest request) output.report world with
      | (.error failure, world) => (.error failure, ⟨world, session.stats.countRun⟩)
      | (.ok (), world) => (.ok output.report, ⟨world, session.stats.countRun⟩)

/-- Answers a request from the cache, if it can, and else by the toolchain. -/
def cached {σ : Type} (toolchain : Toolchain σ) (cache : Cache σ) : Runner σ :=
  fun request session =>
    match cache.load (.ofRequest request) session.world with
    | .error failure => (.error failure, session)
    | .ok (some report) => (.ok report, ⟨session.world, session.stats.countHit⟩)
    | .ok Option.none => storing toolchain cache request session

end Runner

end Weave

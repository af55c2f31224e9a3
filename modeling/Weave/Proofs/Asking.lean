import Weave.Loom
import Weave.Proofs.Journal

/-!
# Weave.Proofs.Asking — the requests of a page

All that a pass over a page has to do with its runner are the requests that it asks, and their
answers.

1. **The session**: a pass leaves the session that its requests leave (`session_weave`).
2. **The answers**: another runner that gives the same answers to these requests is asked the same
   requests and renders the same page (`weave_congr`).
3. **Failures**: a failure ends the pass, so every request but the last one is answered
   (`answered_asked`).
-/

namespace Weave

variable {σ τ : Type}

/-! ## Asking -/

namespace Loom

/-- The request that a step asks, if any. -/
def Step.asks : Step → List Request
  | .awaiting job _ => [job.request]
  | _ => []

/-- The requests that are asked while lines are read, up to the first failure. -/
def asked (options : Options) (runner : Runner σ) (loom : Loom) (index : Nat) :
    List Text → Session σ → List Request
  | [], _ => []
  | line :: lines, session =>
    (loom.advance options index line).asks ++
      match loom.feed options runner index line session with
      | (.ok (), loom, session) => asked options runner loom (index + 1) lines session
      | (.error _, _, _) => []

theorem Step.length_asks (step : Step) : step.asks.length ≤ 1 := by
  cases step <;> simp [asks]

section

variable {options : Options} {runner : Runner σ} {loom loom' : Loom} {index : Nat} {line : Text}
  {lines : List Text} {session after : Session σ}

theorem asked_cons_of_ok
    (hfeed : loom.feed options runner index line session = (.ok (), loom', after)) :
    loom.asked options runner index (line :: lines) session
      = (loom.advance options index line).asks
        ++ loom'.asked options runner (index + 1) lines after := by
  rw [asked, hfeed]

theorem asked_cons_of_error {failure : Failure}
    (hfeed : loom.feed options runner index line session = (.error failure, loom', after)) :
    loom.asked options runner index (line :: lines) session
      = (loom.advance options index line).asks := by
  rw [asked, hfeed, List.append_nil]

end

/-! ## One line -/

section

variable (options : Options) (runner : Runner σ) (loom : Loom) (index : Nat) (line : Text)
  (session : Session σ)

theorem session_feed :
    (loom.feed options runner index line session).2.2
      = runner.afterAll (loom.advance options index line).asks session := by
  unfold feed
  cases loom.advance options index line with
  | settled loom' => rfl
  | refused failure loom' => rfl
  | awaiting job loom' =>
    simp only [settle, Step.asks, Runner.afterAll]
    split <;> simp_all

/-- A line comes out by the answers alone. -/
theorem feed_congr {other : Runner τ} {session' : Session τ}
    (hanswers : (other.calls (loom.advance options index line).asks session').map Call.answer
      = (runner.calls (loom.advance options index line).asks session).map Call.answer) :
    (loom.feed options other index line session').1
        = (loom.feed options runner index line session).1
      ∧ (loom.feed options other index line session').2.1
        = (loom.feed options runner index line session).2.1 := by
  unfold feed
  cases hadvance : loom.advance options index line with
  | settled loom' => exact ⟨rfl, rfl⟩
  | refused failure loom' => exact ⟨rfl, rfl⟩
  | awaiting job loom' =>
    rw [hadvance] at hanswers
    simp only [Step.asks, Runner.calls, List.map_cons, List.map_nil, List.cons.injEq,
      and_true] at hanswers
    simp only [settle]
    rcases hother : other job.request session' with ⟨answer', after'⟩
    rcases hrunner : runner job.request session with ⟨answer, after⟩
    obtain rfl : answer' = answer := by
      rwa [hother, hrunner] at hanswers
    cases answer' with
    | ok report => exact ⟨rfl, rfl⟩
    | error failure => exact ⟨rfl, rfl⟩

/-- A line that does not fail has an answer to what it asks. -/
theorem answered_feed {loom' : Loom} {after : Session σ}
    (hfeed : loom.feed options runner index line session = (.ok (), loom', after)) :
    ∀ call ∈ runner.calls (loom.advance options index line).asks session,
      ∃ report, call.answer = .ok report := by
  unfold feed at hfeed
  cases hadvance : loom.advance options index line with
  | settled loom' => simp [Step.asks, Runner.calls]
  | refused failure loom' => simp [Step.asks, Runner.calls]
  | awaiting job loom' =>
    simp only [Step.asks, Runner.calls, List.mem_singleton, forall_eq]
    simp only [hadvance, settle] at hfeed
    split at hfeed
    · next report after' hrun => exact ⟨report, by rw [hrun]⟩
    · simp at hfeed

end

/-! ## All lines -/

section

variable {options : Options} {runner : Runner σ}

theorem session_feedAll (loom : Loom) (index : Nat) (lines : List Text) (session : Session σ) :
    (loom.feedAll options runner index lines session).2.2
      = runner.afterAll (loom.asked options runner index lines session) session := by
  induction lines generalizing loom index session with
  | nil => rfl
  | cons line lines ih =>
    have hstep := session_feed options runner loom index line session
    rcases hfeed : loom.feed options runner index line session with ⟨failure | _, loom', after⟩
    · rw [asked_cons_of_error hfeed, ← hstep, feedAll, hfeed]
    · rw [asked_cons_of_ok hfeed, Runner.afterAll_append, ← hstep, feedAll, hfeed]
      exact ih loom' (index + 1) after

/-- Lines come out by the answers alone. -/
theorem feedAll_congr {other : Runner τ} (loom : Loom) (index : Nat) (lines : List Text)
    (session : Session σ) (session' : Session τ)
    (hanswers : (other.calls (loom.asked options runner index lines session) session').map
        Call.answer
      = (runner.calls (loom.asked options runner index lines session) session).map Call.answer) :
    loom.asked options other index lines session' = loom.asked options runner index lines session
      ∧ (loom.feedAll options other index lines session').1
        = (loom.feedAll options runner index lines session).1
      ∧ (loom.feedAll options other index lines session').2.1
        = (loom.feedAll options runner index lines session).2.1 := by
  induction lines generalizing loom index session session' with
  | nil => exact ⟨rfl, rfl, rfl⟩
  | cons line lines ih =>
    rw [asked, Runner.calls_append, Runner.calls_append, List.map_append, List.map_append]
      at hanswers
    obtain ⟨hasks, hrest⟩ := List.append_inj hanswers (by simp [Runner.length_calls])
    obtain ⟨hresult, hloom⟩ := feed_congr options runner loom index line session hasks
    rw [← session_feed, ← session_feed] at hrest
    rcases hfeed : loom.feed options runner index line session with ⟨result, loom₁, after⟩
    rcases hfeed' : loom.feed options other index line session' with ⟨result', loom₂, after'⟩
    rw [hfeed, hfeed'] at hresult hloom hrest
    obtain rfl : result' = result := hresult
    obtain rfl : loom₂ = loom₁ := hloom
    cases result' with
    | error failure =>
      rw [asked_cons_of_error hfeed, asked_cons_of_error hfeed', feedAll, feedAll, hfeed, hfeed']
      exact ⟨rfl, rfl, rfl⟩
    | ok _ =>
      obtain ⟨hasked, hresults, hlooms⟩ := ih loom₂ (index + 1) after after' hrest
      rw [asked_cons_of_ok hfeed, asked_cons_of_ok hfeed', feedAll, feedAll, hfeed, hfeed', hasked]
      exact ⟨rfl, hresults, hlooms⟩

/-- All requests but the last one are answered. -/
theorem answered_asked (loom : Loom) (index : Nat) (lines : List Text) (session : Session σ) :
    ∀ call ∈ (runner.calls (loom.asked options runner index lines session) session).dropLast,
      ∃ report, call.answer = .ok report := by
  induction lines generalizing loom index session with
  | nil => simp [asked, Runner.calls]
  | cons line lines ih =>
    have hstep := session_feed options runner loom index line session
    rcases hfeed : loom.feed options runner index line session with ⟨failure | _, loom', after⟩
    · -- what a step asks is the last request
      have hone := (loom.advance options index line).length_asks
      have hlast : (runner.calls (loom.advance options index line).asks session).dropLast = [] := by
        rw [← List.length_eq_zero_iff, List.length_dropLast, Runner.length_calls]
        omega
      rw [asked_cons_of_error hfeed, hlast]
      simp
    · have hasks := answered_feed options runner loom index line session hfeed
      rw [hfeed] at hstep
      rw [asked_cons_of_ok hfeed, Runner.calls_append, ← hstep, List.dropLast_append]
      intro call hcall
      split at hcall
      · exact hasks call (List.dropLast_subset _ hcall)
      · rcases List.mem_append.1 hcall with hcall | hcall
        · exact hasks call hcall
        · exact ih loom' (index + 1) after call hcall

end

end Loom

/-! ## Pages -/

/-- The requests that are asked in a pass over a page, up to the first failure. -/
def asked (options : Options) (runner : Runner σ) (content : Text) (session : Session σ) :
    List Request :=
  Loom.start.asked options runner 0 (Text.lines content) session

section

variable (options : Options) (runner : Runner σ) (content : Text) (session : Session σ)

/-- A pass leaves the session that its requests leave. -/
theorem session_weave :
    (weave options runner content session).session
      = runner.afterAll (asked options runner content session) session := by
  rw [asked, ← Loom.session_feedAll, weave]
  rcases Loom.start.feedAll options runner 0 (Text.lines content) session
    with ⟨failure | _, loom, after⟩
  · rfl
  · rfl

/-- All requests of a page but the last one are answered. -/
theorem answered_asked :
    ∀ call ∈ (runner.calls (asked options runner content session) session).dropLast,
      ∃ report, call.answer = .ok report :=
  Loom.answered_asked Loom.start 0 (Text.lines content) session

variable {options runner content session}

/-- Another runner that gives the same answers to the requests of a page is asked the same, and
the page comes out the same. -/
theorem weave_congr {other : Runner τ} {session' : Session τ}
    (hanswers : (other.calls (asked options runner content session) session').map Call.answer
      = (runner.calls (asked options runner content session) session).map Call.answer) :
    asked options other content session' = asked options runner content session
      ∧ (weave options other content session').result
        = (weave options runner content session).result
      ∧ (weave options other content session').warnings
        = (weave options runner content session).warnings := by
  obtain ⟨hasked, hresult, hloom⟩ :=
    Loom.feedAll_congr Loom.start 0 (Text.lines content) session session' hanswers
  refine ⟨hasked, ?_⟩
  unfold weave
  generalize Loom.start.feedAll options runner 0 (Text.lines content) session = fed
    at hresult hloom ⊢
  generalize Loom.start.feedAll options other 0 (Text.lines content) session' = fed'
    at hresult hloom ⊢
  obtain ⟨result, loom, after⟩ := fed
  obtain ⟨result', loom', after'⟩ := fed'
  obtain rfl : result' = result := hresult
  obtain rfl : loom' = loom := hloom
  cases result' with
  | error failure => exact ⟨rfl, rfl⟩
  | ok _ => exact ⟨rfl, rfl⟩

end

end Weave

import Weave.Proofs.Asking
import Weave.Proofs.Rendering

/-!
# Weave.Proofs.Requests — what the blocks of a page ask for

The requests of a page can be read off its blocks, without a loom, a toolchain or a report
(`requestsOf`). A pass that succeeds asks these and no others, in this order (`asked_eq`), one for
each block whose kind is run (`length_asked`).

The runner `noting` shows it: it does what another runner does and notes what it is asked. Its notes
are what the loom asked, and what the rendering of the outline asked.
-/

namespace Weave

variable {σ : Type}

/-! ## The requests of blocks -/

/-- Whether blocks of a kind are run: all but those that are only shown or collected. -/
def BlockKind.isRun : BlockKind → Bool
  | .skip => false
  | .collect _ _ => false
  | .plain => true
  | .singleFile => true
  | .execute _ _ => true

/-- The request of a block below the blocks `closed`, unless it makes none or is in error. -/
def requestOf (options : Options) (closed : List Block) (block : Block) : List Request :=
  match request? options closed block with
  | .ok (some request) => [request]
  | _ => []

/-- The requests of some parts below the blocks `closed`, in order. -/
def requestsOf (options : Options) (closed : List Block) : List Part → List Request
  | [] => []
  | .prose _ :: parts => requestsOf options closed parts
  | .block block :: parts =>
    requestOf options closed block ++ requestsOf options (closed ++ [block]) parts

/-- A block that is not in error makes one request if its kind is run, and else none. -/
theorem length_requestOf {options : Options} {closed : List Block} {block : Block}
    {request : Option Request} (h : request? options closed block = .ok request) :
    (requestOf options closed block).length = block.kind.isRun.toNat := by
  have hsome : request.isSome = block.kind.isRun := by
    cases hkind : block.kind with
    | skip | collect | singleFile =>
      simp only [request?, hkind, Except.ok.injEq] at h
      rw [← h]
      rfl
    | plain =>
      simp only [request?, hkind] at h
      split at h
      · rw [← Except.ok.inj h]
        rfl
      · cases h
    | execute =>
      simp only [request?, hkind] at h
      split at h
      · cases h
      · rw [← Except.ok.inj h]
        rfl
  rw [requestOf, h, ← hsome]
  cases request <;> rfl

section

variable {options : Options} {runner : Runner σ} {closed : List Block}
  {session after : Session σ}

/-- A block that is rendered has left the session that its request leaves. -/
theorem session_renderBlock {block : Block} {shown : Text}
    (h : renderBlock options runner closed block session = (.ok shown, after)) :
    after = runner.afterAll (requestOf options closed block) session
      ∧ (requestOf options closed block).length = block.kind.isRun.toNat := by
  rcases renderBlock_cases h with ⟨hrequest, -, rfl⟩ | ⟨request, report, hrequest, hrun, -⟩
  · refine ⟨?_, length_requestOf hrequest⟩
    rw [requestOf, hrequest]
    rfl
  · refine ⟨?_, length_requestOf hrequest⟩
    rw [requestOf, hrequest]
    simp only [Runner.afterAll, hrun]

/-- Parts that are rendered have left the session that their requests leave, one for each block that
is run. -/
theorem session_renderParts {parts : List Part} {text : Text}
    (h : renderParts options runner closed parts session = (.ok text, after)) :
    after = runner.afterAll (requestsOf options closed parts) session
      ∧ (requestsOf options closed parts).length
        = (blocksOf parts).countP fun block => block.kind.isRun := by
  induction parts generalizing closed session text with
  | nil =>
    obtain ⟨-, rfl⟩ := Prod.mk.inj h
    exact ⟨rfl, rfl⟩
  | cons part parts ih =>
    cases part with
    | prose line =>
      rw [renderParts] at h
      split at h
      · simp at h
      · next more session' hparts =>
        obtain ⟨-, rfl⟩ := Prod.mk.inj h
        exact ih hparts
    | block block =>
      rw [renderParts] at h
      split at h
      · simp at h
      · next shown between hblock =>
        obtain ⟨hbetween, hlength⟩ := session_renderBlock hblock
        split at h
        · simp at h
        · next more session' hparts =>
          obtain ⟨-, rfl⟩ := Prod.mk.inj h
          obtain ⟨hafter, hrest⟩ := ih hparts
          rw [requestsOf, Runner.afterAll_append, ← hbetween, List.length_append, hlength, hrest,
            blocksOf_block, List.countP_cons]
          refine ⟨hafter, ?_⟩
          cases block.kind.isRun <;> simp [Nat.add_comm]

end

/-! ## A runner that notes what it is asked -/

namespace Runner

/-- The runner that does what another one does and notes what it is asked. -/
def noting (runner : Runner σ) : Runner (Logged σ) :=
  fun request session =>
    ((runner request session.unlogged).1,
      ⟨⟨(runner request session.unlogged).2.world, session.world.log ++ [request]⟩,
        (runner request session.unlogged).2.stats⟩)

variable (runner : Runner σ) (requests : List Request) (session : Session (Logged σ))

/-- It gives the same answers. -/
theorem answers_noting :
    (runner.noting.calls requests session).map Call.answer
      = (runner.calls requests session.unlogged).map Call.answer := by
  induction requests generalizing session with
  | nil => rfl
  | cons request requests ih =>
    rw [calls, calls, List.map_cons, List.map_cons, ih]
    rfl

/-- It notes all requests. -/
theorem log_noting :
    (runner.noting.afterAll requests session).world.log = session.world.log ++ requests := by
  induction requests generalizing session with
  | nil => simp [afterAll]
  | cons request requests ih =>
    rw [afterAll, ih]
    simp [noting]

end Runner

/-! ## The requests of a page -/

section

variable {options : Options} {runner : Runner σ} {content : Text} {session : Session σ} {page : Page}

/-- An outline that is rendered is complete, and so are its parts rendered. -/
theorem renderParts_of_render {outline : Outline} {after : Session σ}
    (h : outline.render options runner session = (.ok page, after)) :
    outline.ending = .complete
      ∧ renderParts options runner [] outline.parts session = (.ok page.content, after) := by
  unfold Outline.render at h
  split at h
  · simp at h
  · next text after' hparts =>
    split at h
    · next hcomplete =>
      obtain ⟨hpage, rfl⟩ := Prod.mk.inj h
      rw [← Except.ok.inj hpage]
      exact ⟨hcomplete, hparts⟩
    · simp at h
    · simp at h

/-- A pass over a page comes to what its outline is rendered to. -/
theorem outcome_weave :
    (weave options runner content session).result
        = ((outline options.language 0 (Text.lines content)).render options runner session).1
      ∧ (weave options runner content session).session
        = ((outline options.language 0 (Text.lines content)).render options runner session).2 := by
  have hrun := feedAll_outline options runner (Text.lines content) rfl (Loom.follows_start 0)
    session
  exact ⟨congrArg Prod.fst (render_of_runsTo hrun), congrArg Prod.snd (render_of_runsTo hrun)⟩

theorem render_of_weave (h : (weave options runner content session).result = .ok page) :
    (outline options.language 0 (Text.lines content)).render options runner session
      = (.ok page, (weave options runner content session).session) := by
  rw [outcome_weave.2, ← h, outcome_weave.1]

/-- No block of a page that is rendered is left open. -/
theorem complete_of_weave (h : (weave options runner content session).result = .ok page) :
    (outline options.language 0 (Text.lines content)).ending = .complete :=
  (renderParts_of_render (render_of_weave h)).1

/-- Rendering the parts of a page leaves the session of the pass. -/
theorem renderParts_of_weave (h : (weave options runner content session).result = .ok page) :
    renderParts options runner [] (outline options.language 0 (Text.lines content)).parts session
      = (.ok page.content, (weave options runner content session).session) :=
  (renderParts_of_render (render_of_weave h)).2

/-- A page that is rendered has asked the requests of its blocks and nothing else. -/
theorem asked_eq (h : (weave options runner content session).result = .ok page) :
    asked options runner content session
      = requestsOf options [] (outline options.language 0 (Text.lines content)).parts := by
  obtain ⟨hasked, hresult, -⟩ := weave_congr
    (runner.answers_noting (asked options runner content session) session.logged)
  have hparts := renderParts_of_weave (hresult.trans h)
  obtain ⟨hsession, -⟩ := session_renderParts hparts
  rw [session_weave, hasked] at hsession
  have hlog := congrArg (·.world.log) hsession
  simpa only [Runner.log_noting, Session.logged, List.nil_append] using hlog

/-- It has asked one request for each block that is run. -/
theorem length_asked (h : (weave options runner content session).result = .ok page) :
    (asked options runner content session).length
      = (closedBlocks options.language (Text.lines content)).countP fun block =>
          block.kind.isRun := by
  rw [asked_eq h]
  exact (session_renderParts (renderParts_of_weave h)).2

end

end Weave

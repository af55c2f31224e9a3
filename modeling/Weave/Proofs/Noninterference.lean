import Weave.Proofs.Replay
import Weave.Proofs.Requests

/-!
# Weave.Proofs.Noninterference — reports never decide what is run

What a page asks for, and where its reports go, stands in the page itself: in `planned`, the requests
of its blocks up to the first block in error, and in `layout`, the rendered page with gaps in the
place of reports. Neither mentions a runner. So two passes over a page, by whatever runners and with
whatever reports, can differ in where a request fails and in what fills the gaps, and in nothing else.

1. **Requests**: a pass asks what is planned, up to the first request that fails (`asked_eq_planned`).
2. **Pages**: a page that is rendered is its layout, filled with the answers (`content_eq_fill`).
3. **Two passes**: `weave_noninterference`.
-/

namespace Weave

variable {σ τ : Type}

/-! ## Requests up to a failure -/

namespace Runner

/-- The requests that are made one after the other up to the first one that fails, that one
included. -/
def untilFailure (runner : Runner σ) : List Request → Session σ → List Request
  | [], _ => []
  | request :: requests, session =>
    request :: match runner request session with
      | (.ok _, after) => untilFailure runner requests after
      | (.error _, _) => []

/-- All of some requests are answered. -/
def AnswersAll (runner : Runner σ) (requests : List Request) (session : Session σ) : Prop :=
  ∀ call ∈ runner.calls requests session, ∃ report, call.answer = .ok report

variable (runner : Runner σ) {request : Request} {requests : List Request} {session after : Session σ}

theorem answersAll_nil (session : Session σ) : runner.AnswersAll [] session := by
  simp [AnswersAll, calls]

theorem answersAll_append (first second : List Request) (session : Session σ) :
    runner.AnswersAll (first ++ second) session
      ↔ runner.AnswersAll first session
        ∧ runner.AnswersAll second (runner.afterAll first session) := by
  rw [AnswersAll, calls_append, List.forall_mem_append]
  rfl

theorem answersAll_of_answers {reports : List Text}
    (h : (runner.calls requests session).map Call.answer = reports.map .ok) :
    runner.AnswersAll requests session := by
  intro call hcall
  have hanswer : call.answer ∈ reports.map Except.ok := h ▸ List.mem_map.2 ⟨call, hcall, rfl⟩
  obtain ⟨report, -, hreport⟩ := List.mem_map.1 hanswer
  exact ⟨report, hreport.symm⟩

theorem untilFailure_cons_of_ok {report : Text} (h : runner request session = (.ok report, after)) :
    runner.untilFailure (request :: requests) session
      = request :: runner.untilFailure requests after := by
  rw [untilFailure, h]

theorem untilFailure_cons_of_error {failure : Failure}
    (h : runner request session = (.error failure, after)) :
    runner.untilFailure (request :: requests) session = [request] := by
  rw [untilFailure, h]

theorem untilFailure_prefix (requests : List Request) (session : Session σ) :
    runner.untilFailure requests session <+: requests := by
  induction requests generalizing session with
  | nil => exact List.prefix_refl []
  | cons request requests ih =>
    rcases hrun : runner request session with ⟨failure | report, after⟩
    · rw [runner.untilFailure_cons_of_error hrun]
      exact List.prefix_append [request] requests
    · rw [runner.untilFailure_cons_of_ok hrun]
      exact List.prefix_cons_inj request |>.2 (ih after)

/-- If none of the requests that are made fails, all of them are made. -/
theorem untilFailure_of_answersAll {requests : List Request} {session : Session σ}
    (h : runner.AnswersAll (runner.untilFailure requests session) session) :
    runner.untilFailure requests session = requests := by
  induction requests generalizing session with
  | nil => rfl
  | cons request requests ih =>
    rcases hrun : runner request session with ⟨failure | report, after⟩
    · rw [runner.untilFailure_cons_of_error hrun, AnswersAll, calls, List.forall_mem_cons] at h
      obtain ⟨⟨report, hanswer⟩, -⟩ := h
      rw [hrun] at hanswer
      cases hanswer
    · rw [runner.untilFailure_cons_of_ok hrun, AnswersAll, calls, List.forall_mem_cons, hrun] at h
      rw [runner.untilFailure_cons_of_ok hrun, ih h.2]

/-- Requests that are answered are made before those behind them. -/
theorem untilFailure_append {first : List Request} (h : runner.AnswersAll first session)
    (second : List Request) :
    runner.untilFailure (first ++ second) session
      = first ++ runner.untilFailure second (runner.afterAll first session) := by
  induction first generalizing session with
  | nil => rfl
  | cons request first ih =>
    rw [AnswersAll, calls, List.forall_mem_cons] at h
    obtain ⟨⟨report, hanswer⟩, hrest⟩ := h
    have hrun : runner request session = (.ok report, (runner request session).2) :=
      Prod.ext hanswer rfl
    rw [List.cons_append, runner.untilFailure_cons_of_ok hrun, ih hrest]
    rfl

/-- The runner that notes what it is asked fails where the other one fails. -/
theorem untilFailure_noting (requests : List Request) (session : Session (Logged σ)) :
    runner.noting.untilFailure requests session
      = runner.untilFailure requests session.unlogged := by
  induction requests generalizing session with
  | nil => rfl
  | cons request requests ih =>
    rcases hrun : runner request session.unlogged with ⟨failure | report, after⟩
    · have hnoting : runner.noting request session
          = (.error failure, ⟨⟨after.world, session.world.log ++ [request]⟩, after.stats⟩) := by
        simp only [noting, hrun]
      rw [runner.untilFailure_cons_of_error hrun, runner.noting.untilFailure_cons_of_error hnoting]
    · have hnoting : runner.noting request session
          = (.ok report, ⟨⟨after.world, session.world.log ++ [request]⟩, after.stats⟩) := by
        simp only [noting, hrun]
      rw [runner.untilFailure_cons_of_ok hrun, runner.noting.untilFailure_cons_of_ok hnoting, ih]
      rfl

end Runner

/-! ## The requests that a page plans -/

/-- The requests of some parts below the blocks `closed`, up to the first block in error. -/
def plannedIn (options : Options) (closed : List Block) : List Part → List Request
  | [] => []
  | .prose _ :: parts => plannedIn options closed parts
  | .block block :: parts =>
    match request? options closed block with
    | .error _ => []
    | .ok none => plannedIn options (closed ++ [block]) parts
    | .ok (some request) => request :: plannedIn options (closed ++ [block]) parts

/-- The requests of a page up to the first block in error, as its text says. -/
def planned (options : Options) (content : Text) : List Request :=
  plannedIn options [] (outline options.language 0 (Text.lines content)).parts

section

variable {options : Options} {runner : Runner σ}

/-- Rendering parts leaves the session that the planned requests leave, up to the first failure. The
cases are those of a block: in error, without a request, refused, or answered. -/
theorem session_renderParts_planned (parts : List Part) (closed : List Block)
    (session : Session σ) :
    (renderParts options runner closed parts session).2
      = runner.afterAll (runner.untilFailure (plannedIn options closed parts) session) session := by
  induction parts generalizing closed session with
  | nil => rfl
  | cons part parts ih =>
    cases part with
    | prose line =>
      have hrest := ih closed session
      rw [renderParts, plannedIn, ← hrest]
      rcases renderParts options runner closed parts session with ⟨failure | text, after⟩ <;> rfl
    | block block =>
      have hnext := ih (closed ++ [block])
      rw [renderParts, renderBlock, plannedIn]
      cases hrequest : request? options closed block with
      | error failure => rfl
      | ok made =>
        cases made with
        | none =>
          simp only [← hnext session]
          rcases renderParts options runner (closed ++ [block]) parts session
            with ⟨failure | text, after⟩ <;> rfl
        | some request =>
          rcases hrun : runner request session with ⟨failure | report, between⟩
          · simp only [runner.untilFailure_cons_of_error hrun, Runner.afterAll, hrun]
          · simp only [runner.untilFailure_cons_of_ok hrun, Runner.afterAll, hrun, ← hnext between]
            rcases renderParts options runner (closed ++ [block]) parts between
              with ⟨failure | text, after⟩ <;> rfl

/-- The ending of an outline asks for nothing. -/
theorem session_render (outline : Outline) (session : Session σ) :
    (outline.render options runner session).2
      = (renderParts options runner [] outline.parts session).2 := by
  unfold Outline.render
  rcases renderParts options runner [] outline.parts session with ⟨failure | text, after⟩
  · rfl
  · cases outline.ending <;> rfl

/-- A pass over a page asks what the page plans, up to the first request that fails. The notes of a
runner that takes some show it. -/
theorem asked_eq_planned (options : Options) (runner : Runner σ) (content : Text)
    (session : Session σ) :
    asked options runner content session
      = runner.untilFailure (planned options content) session := by
  obtain ⟨hasked, -, -⟩ := weave_congr
    (runner.answers_noting (asked options runner content session) session.logged)
  have hpass := session_weave options runner.noting content session.logged
  rw [hasked, outcome_weave.2, session_render, session_renderParts_planned] at hpass
  have hlog := congrArg (·.world.log) hpass
  simp only [Runner.log_noting, Runner.untilFailure_noting, Session.logged, List.nil_append]
    at hlog
  exact hlog.symm

end

/-! ## The page without its reports -/

/-- A piece of a page: a text that is there whatever is reported, or the place of a report. -/
inductive Piece where
  | text (s : Text)
  | gap
deriving Repr, DecidableEq, Inhabited

namespace Piece

/-- The text of some pieces whose gaps are filled with reports, in order. -/
def fill : List Piece → List Text → Text
  | [], _ => []
  | .text s :: pieces, reports => s ++ fill pieces reports
  | .gap :: pieces, report :: reports => report ++ fill pieces reports
  | .gap :: pieces, [] => fill pieces []

/-- The number of gaps. -/
def gaps (pieces : List Piece) : Nat :=
  pieces.count .gap

/-- Pieces are filled one after the other. -/
theorem fill_append {first second : List Piece} {reports others : List Text}
    (h : reports.length = gaps first) :
    fill (first ++ second) (reports ++ others) = fill first reports ++ fill second others := by
  induction first generalizing reports with
  | nil =>
    obtain rfl : reports = [] := List.eq_nil_of_length_eq_zero h
    rfl
  | cons piece first ih =>
    cases piece with
    | text s =>
      have hrest : reports.length = gaps first := by simpa [gaps] using h
      simp only [List.cons_append, fill, ih hrest, List.append_assoc]
    | gap =>
      cases reports with
      | nil => simp [gaps] at h
      | cons report reports =>
        have hrest : reports.length = gaps first := by simpa [gaps] using h
        simp only [List.cons_append, fill, ih hrest, List.append_assoc]

end Piece

/-- The pieces that stand for a block: its echo, and a section with a gap if it makes a request. -/
def blockLayout (options : Options) (closed : List Block) (block : Block) : List Piece :=
  match request? options closed block with
  | .ok (some _) =>
    [.text (echo options.language block ++ '\n' :: "```".toList ++ options.resultTag ++ "\n".toList),
      .gap, .text "```\n".toList]
  | _ => [.text (echo options.language block)]

/-- The pieces that stand for some parts below the blocks `closed`. -/
def layoutIn (options : Options) (closed : List Block) : List Part → List Piece
  | [] => []
  | .prose line :: parts => .text line :: layoutIn options closed parts
  | .block block :: parts =>
    blockLayout options closed block ++ layoutIn options (closed ++ [block]) parts

/-- A page with gaps in the place of reports, as its source says. -/
def layout (options : Options) (content : Text) : List Piece :=
  layoutIn options [] (outline options.language 0 (Text.lines content)).parts

section

variable {options : Options} {runner : Runner σ}

/-- A block that is rendered plans its request and no other. -/
theorem plannedIn_block {closed : List Block} {block : Block} {session after : Session σ}
    {shown : Text} (h : renderBlock options runner closed block session = (.ok shown, after))
    (parts : List Part) :
    plannedIn options closed (.block block :: parts)
      = requestOf options closed block ++ plannedIn options (closed ++ [block]) parts := by
  rw [plannedIn, requestOf]
  rcases renderBlock_cases h with ⟨hrequest, -⟩ | ⟨request, report, hrequest, -⟩
  · rw [hrequest]
    rfl
  · rw [hrequest]
    rfl

/-- It is its layout, with the answer in the gap if it has made a request. -/
theorem fill_of_renderBlock {closed : List Block} {block : Block} {session after : Session σ}
    {shown : Text} (h : renderBlock options runner closed block session = (.ok shown, after)) :
    ∃ reports,
      (runner.calls (requestOf options closed block) session).map Call.answer
          = reports.map .ok ∧
        reports.length = Piece.gaps (blockLayout options closed block) ∧
        shown = Piece.fill (blockLayout options closed block) reports := by
  rw [requestOf, blockLayout]
  rcases renderBlock_cases h with ⟨hrequest, rfl, -⟩ | ⟨request, report, hrequest, hrun, rfl⟩
  · rw [hrequest]
    exact ⟨[], rfl, rfl, by simp [Piece.fill]⟩
  · rw [hrequest]
    refine ⟨[report], ?_, rfl, ?_⟩
    · simp only [Runner.calls, List.map_cons, List.map_nil, hrun]
    · simp [Piece.fill, resultSection]

/-- Parts that are rendered are their layout, filled with the answers to what they plan. -/
theorem fill_of_renderParts {parts : List Part} {closed : List Block} {session after : Session σ}
    {text : Text} (h : renderParts options runner closed parts session = (.ok text, after)) :
    ∃ reports,
      (runner.calls (plannedIn options closed parts) session).map Call.answer = reports.map .ok ∧
        reports.length = Piece.gaps (layoutIn options closed parts) ∧
        text = Piece.fill (layoutIn options closed parts) reports := by
  induction parts generalizing closed session text with
  | nil =>
    obtain ⟨htext, -⟩ := Prod.mk.inj h
    exact ⟨[], rfl, rfl, (Except.ok.inj htext).symm⟩
  | cons part parts ih =>
    cases part with
    | prose line =>
      rw [renderParts] at h
      split at h
      · simp at h
      · next more session' hparts =>
        obtain ⟨htext, rfl⟩ := Prod.mk.inj h
        obtain ⟨reports, hanswers, hgaps, hmore⟩ := ih hparts
        refine ⟨reports, hanswers, ?_, ?_⟩
        · rw [hgaps, layoutIn, Piece.gaps, Piece.gaps, List.count_cons_of_ne (by simp)]
        · rw [← Except.ok.inj htext, hmore, layoutIn, Piece.fill]
    | block block =>
      rw [renderParts] at h
      split at h
      · simp at h
      · next shown between hblock =>
        split at h
        · simp at h
        · next more session' hparts =>
          obtain ⟨htext, rfl⟩ := Prod.mk.inj h
          -- the block fills its own gaps, and the rest of the page the gaps behind them
          obtain ⟨first, hfirst, hgap, hshown⟩ := fill_of_renderBlock hblock
          obtain ⟨reports, hanswers, hgaps, hmore⟩ := ih hparts
          refine ⟨first ++ reports, ?_, ?_, ?_⟩
          · rw [plannedIn_block hblock, Runner.calls_append, ← (session_renderBlock hblock).1,
              List.map_append, hfirst, hanswers, List.map_append]
          · rw [List.length_append, hgap, hgaps, layoutIn, Piece.gaps, Piece.gaps, Piece.gaps,
              List.count_append]
          · rw [← Except.ok.inj htext, hshown, hmore, layoutIn, Piece.fill_append hgap]

end

section

variable {options : Options} {runner : Runner σ} {content : Text} {session : Session σ} {page : Page}

/-- A page that is rendered has asked all that it plans. -/
theorem asked_eq_of_weave (h : (weave options runner content session).result = .ok page) :
    asked options runner content session = planned options content := by
  have hanswered := answered_of_weave h
  rw [asked_eq_planned] at hanswered ⊢
  exact runner.untilFailure_of_answersAll hanswered

/-- Its content is its layout with the answers in the gaps, and its blocks are counted as they
stand in the source. -/
theorem content_eq_fill (h : (weave options runner content session).result = .ok page) :
    page.managedBlocks = (closedBlocks options.language (Text.lines content)).length ∧
      ∃ reports,
        (runner.calls (planned options content) session).map Call.answer = reports.map .ok ∧
          reports.length = Piece.gaps (layout options content) ∧
          page.content = Piece.fill (layout options content) reports := by
  have hrender := render_of_weave h
  obtain ⟨hcomplete, hparts⟩ := renderParts_of_render hrender
  refine ⟨?_, fill_of_renderParts hparts⟩
  rw [Outline.render, hparts, hcomplete] at hrender
  rw [← Except.ok.inj (Prod.mk.inj hrender).1]
  rfl

end

/-! ## Two passes -/

/-- What is reported never decides what is run. Two passes over a page ask the same requests, up to
the first one that fails in either of them: what the one asks begins what the other asks, and if
nothing fails in one of them, then it asks all that the other one asks. If both render the page, they
have asked the same, they count the same blocks, and both pages are the layout of the page, which
depends on neither, filled with the answers of each. -/
theorem weave_noninterference (options : Options) (content : Text) (runner : Runner σ)
    (session : Session σ) (other : Runner τ) (session' : Session τ) :
    let first := asked options runner content session
    let second := asked options other content session'
    (first <+: second ∨ second <+: first) ∧
      (runner.AnswersAll first session → second <+: first) ∧
      (other.AnswersAll second session' → first <+: second) ∧
      ∀ page page', (weave options runner content session).result = .ok page →
        (weave options other content session').result = .ok page' →
        first = second ∧ page.managedBlocks = page'.managedBlocks ∧
          ∃ reports reports' : List Text,
            (runner.calls first session).map Call.answer = reports.map .ok ∧
              (other.calls second session').map Call.answer = reports'.map .ok ∧
              reports.length = Piece.gaps (layout options content) ∧
              reports'.length = Piece.gaps (layout options content) ∧
              page.content = Piece.fill (layout options content) reports ∧
              page'.content = Piece.fill (layout options content) reports' := by
  intro first second
  have hfirst : first = runner.untilFailure (planned options content) session :=
    asked_eq_planned options runner content session
  have hsecond : second = other.untilFailure (planned options content) session' :=
    asked_eq_planned options other content session'
  -- both runners are asked the beginning of one list, which the page alone determines
  have hplanned : first <+: planned options content := by
    rw [hfirst]
    exact runner.untilFailure_prefix _ _
  have hplanned' : second <+: planned options content := by
    rw [hsecond]
    exact other.untilFailure_prefix _ _
  refine ⟨List.prefix_or_prefix_of_prefix hplanned hplanned', ?_, ?_, ?_⟩
  · intro hanswered
    rw [hfirst] at hanswered ⊢
    rw [runner.untilFailure_of_answersAll hanswered]
    exact hplanned'
  · intro hanswered
    rw [hsecond] at hanswered ⊢
    rw [other.untilFailure_of_answersAll hanswered]
    exact hplanned
  · intro page page' hpage hpage'
    have hall : first = planned options content := asked_eq_of_weave hpage
    have hall' : second = planned options content := asked_eq_of_weave hpage'
    obtain ⟨hblocks, reports, hanswers, hgaps, hcontent⟩ := content_eq_fill hpage
    obtain ⟨hblocks', reports', hanswers', hgaps', hcontent'⟩ := content_eq_fill hpage'
    rw [hall, hall']
    exact ⟨rfl, hblocks.trans hblocks'.symm, reports, reports', hanswers, hanswers', hgaps, hgaps',
      hcontent, hcontent'⟩

/-- The toolchain that reports the opening line of a program. -/
def Toolchain.opening : Toolchain (World Unit) where
  execute _ world := (.ok ⟨"```zig -singleFile\n".toList, []⟩, world)

/-- A page asks the same of a toolchain that counts and of one whose reports look like programs, with a
memory here and without one there. If the second toolchain is not there at all, only the beginning of
it is asked. -/
theorem weave_noninterference_opening :
    let counted := Runner.cached Toolchain.counting .memory
    let opened := Runner.cached Toolchain.opening .none
    let absent := Runner.cached Toolchain.missing .none
    let start : Session (World Unit) := .start (.ofDisk (.blank []) ())
    ∃ page page', (weave .standard counted twicePage countingSession).result = .ok page ∧
      (weave .standard opened twicePage start).result = .ok page' ∧
      asked .standard counted twicePage countingSession = asked .standard opened twicePage start ∧
      page.managedBlocks = page'.managedBlocks ∧
      asked .standard absent twicePage start
        <+: asked .standard counted twicePage countingSession := by
  intro counted opened absent start
  have hsucceeds : (weave .standard counted twicePage countingSession).result.isOk = true := by
    decide +kernel
  have hsucceeds' : (weave .standard opened twicePage start).result.isOk = true := by
    decide +kernel
  obtain ⟨page, hpage⟩ := exists_ok_of_isOk hsucceeds
  obtain ⟨page', hpage'⟩ := exists_ok_of_isOk hsucceeds'
  obtain ⟨-, -, -, hboth⟩ :=
    weave_noninterference .standard twicePage counted countingSession opened start
  obtain ⟨hasked, hblocks, -⟩ := hboth page page' hpage hpage'
  obtain ⟨-, hfirst, -⟩ :=
    weave_noninterference .standard twicePage counted countingSession absent start
  exact ⟨page, page', hpage, hpage', hasked, hblocks, hfirst (answered_of_weave hpage)⟩

end Weave

import Weave.Proofs.Noninterference
import Weave.Proofs.Rereading

/-!
# Weave.Proofs.ProseEdits — lines put into a page

Lines that open no block, put between two parts of a page, change nothing but where the parts below
them stand. Where a block stands is kept in it, and failures tell it; what a block asks for does not
depend on it.

1. **Moving down**: opening lines, parts and outlines `n` lines further down
   (`Fence.classify_movedDown`, `outline_movedDown`).
2. **Requests**: blocks that stand elsewhere ask for the same (`request?_movedDown`,
   `plannedIn_movedDown`).
3. **Rendering**: parts that stand elsewhere are rendered to the same text, and their failures name
   the line where they stand (`renderParts_movedDown`).
4. **Pages**: `weave_insert`.
-/

namespace Weave

variable {σ : Type}

/-! ## Failures further down -/

namespace Failure

/-- The number of the line that a failure names, if it names one. -/
def line? : Failure → Option Nat
  | .unresolvedCollection _ _ line => some line
  | .wildcardExecution _ line => some line
  | .collectionIdOutOfRange _ line => some line
  | .unterminatedBlock line => some line
  | _ => none

/-- The failure of a page whose lines stand `n` lines further down. -/
def movedDown (n : Nat) : Failure → Failure
  | .unresolvedCollection family id line => .unresolvedCollection family id (line + n)
  | .wildcardExecution family line => .wildcardExecution family (line + n)
  | .collectionIdOutOfRange digits line => .collectionIdOutOfRange digits (line + n)
  | .unterminatedBlock line => .unterminatedBlock (line + n)
  | failure => failure

theorem movedDown_of_line?_eq_none {failure : Failure} (h : failure.line? = none) (n : Nat) :
    failure.movedDown n = failure := by
  cases failure <;> first | rfl | cases h

end Failure

/-! ## Opening lines further down -/

namespace Fence

variable (n : Nat)

theorem readRow_movedDown (word : Text) (line : Nat)
    (row : Text × (CollectionId → BlockKind)) :
    readRow word (line + n) row
      = (readRow word line row).map (·.mapError (·.movedDown n)) := by
  unfold readRow
  cases Text.after? row.1 word with
  | none => rfl
  | some raw =>
    cases hparse : CollectionId.parse? raw with
    | some id => simp [hparse, Except.mapError]
    | none => by_cases hrange : CollectionId.isOutOfRange raw <;>
        simp [hparse, hrange, Except.mapError, Failure.movedDown]

theorem readDirective_movedDown (token : Text) (line : Nat) :
    readDirective token (line + n)
      = (readDirective token line).map (·.mapError (·.movedDown n)) := by
  unfold readDirective
  cases Text.after? ['-'] token with
  | none => rfl
  | some word =>
    simp only [Option.bind_eq_bind, Option.bind_some, List.map_findSome?]
    exact congrArg (directives.findSome? ·) (funext fun row => readRow_movedDown n word line row)

theorem checkRunnable_movedDown (kind : BlockKind) (line : Nat) :
    checkRunnable kind (line + n) = (checkRunnable kind line).mapError (·.movedDown n) := by
  unfold checkRunnable
  split <;> rfl

theorem kindOf_movedDown (tokens : List Text) (line : Nat) :
    kindOf tokens (line + n) = (kindOf tokens line).mapError (·.movedDown n) := by
  have hfound : tokens.findSome? (readDirective · (line + n))
      = (tokens.findSome? (readDirective · line)).map (·.mapError (·.movedDown n)) := by
    rw [List.map_findSome?]
    exact congrArg (tokens.findSome? ·)
      (funext fun token => readDirective_movedDown n token line)
  unfold kindOf
  rw [hfound]
  rcases tokens.findSome? (readDirective · line) with _ | failure | kind
  · rfl
  · rfl
  · exact checkRunnable_movedDown n kind line

/-- An opening line says the same wherever it stands, and if it is in error, that it stands there. -/
theorem classify_movedDown (language line : Text) (index : Nat) :
    classify language line (index + n)
      = (classify language line index).mapError (·.movedDown n) := by
  unfold classify
  cases info? language line with
  | none => rfl
  | some info =>
    have hkind := kindOf_movedDown n (Text.words (cutHighlight info).1) (index + 1)
    rw [Nat.add_right_comm] at hkind
    simp only [hkind]
    cases kindOf (Text.words (cutHighlight info).1) (index + 1) <;> rfl

end Fence

/-! ## Parts further down -/

/-- The block `n` lines further down. -/
def Block.movedDown (n : Nat) (block : Block) : Block :=
  { block with startLine := block.startLine + n }

/-- The part `n` lines further down. -/
def Part.movedDown (n : Nat) : Part → Part
  | .prose line => .prose line
  | .block b => .block (b.movedDown n)

/-- The ending `n` lines further down. -/
def Ending.movedDown (n : Nat) : Ending → Ending
  | .complete => .complete
  | .refused failure => .refused (failure.movedDown n)
  | .unclosed block => .unclosed (block.movedDown n)

/-- The outline `n` lines further down. -/
def Outline.movedDown (n : Nat) (outline : Outline) : Outline :=
  ⟨outline.parts.map (·.movedDown n), outline.ending.movedDown n⟩

@[simp] theorem length_blocksOf_movedDown (n : Nat) (parts : List Part) :
    (blocksOf (parts.map (·.movedDown n))).length = (blocksOf parts).length := by
  induction parts with
  | nil => rfl
  | cons part parts ih => cases part <;> simpa [Part.movedDown] using ih

theorem blocksOf_append (above below : List Part) :
    blocksOf (above ++ below) = blocksOf above ++ blocksOf below :=
  List.filterMap_append

theorem blocksOf_copied (lines : List Text) : blocksOf (lines.map .prose) = [] := by
  induction lines with
  | nil => rfl
  | cons line lines ih => exact ih

section

variable {language : Text}

/-- A line that is copied. -/
theorem outline_prose {line : Text} {index : Nat}
    (hline : Fence.classify language (Text.chomp line) index = .ok none) (lines : List Text) :
    outline language index (line :: lines)
      = (outline language (index + 1) lines).cons (.prose line) := by
  rw [outline, hline]

/-- An opening line that no line below it closes. -/
theorem outline_unclosed {opener : Text} {index : Nat} {opening : Fence.Annotation}
    (hopener : Fence.classify language (Text.chomp opener) index = .ok (some opening))
    {lines : List Text} (hlines : lines.dropWhile (!closes ·) = []) :
    outline language index (opener :: lines)
      = ⟨[], .unclosed (blockOf opening index (innerLines lines))⟩ := by
  rw [outline, hopener]
  simp only
  split
  · rfl
  · next hsome =>
    rw [hlines] at hsome
    cases hsome

/-- Lines that stand `n` lines further down have their outline there. -/
theorem outline_movedDown (n index : Nat) (lines : List Text) :
    outline language (index + n) lines = (outline language index lines).movedDown n := by
  fun_induction outline language index lines with
  | case1 index =>
    rw [outline]
    rfl
  | case2 index line lines failure hline =>
    rw [outline, Fence.classify_movedDown, hline]
    rfl
  | case3 index line lines hline ih =>
    have hcopied : Fence.classify language (Text.chomp line) (index + n) = .ok none := by
      rw [Fence.classify_movedDown, hline]
      rfl
    rw [outline_prose hcopied, Nat.add_right_comm, ih]
    rfl
  | case4 index line lines opening hline hdrop =>
    have hopener : Fence.classify language (Text.chomp line) (index + n) = .ok (some opening) := by
      rw [Fence.classify_movedDown, hline]
      rfl
    rw [outline_unclosed hopener hdrop]
    rfl
  | case5 index line lines opening hline closing rest hdrop ih =>
    have hopener : Fence.classify language (Text.chomp line) (index + n) = .ok (some opening) := by
      rw [Fence.classify_movedDown, hline]
      rfl
    obtain ⟨hlines, hcloses⟩ := innerLines_append hdrop
    have hindex : index + n + (innerLines lines).length + 2
        = index + (innerLines lines).length + 2 + n := by omega
    have hinner : ∀ l ∈ innerLines lines, closes l = false := closes_of_mem_innerLines
    have hblock := outline_block hopener hinner hcloses rest
    rw [hlines, hindex, ih] at hblock
    rw [hblock]
    rfl

/-- Lines below lines whose last block is closed. -/
theorem outline_append_of_complete {index : Nat} {above : List Text}
    (habove : (outline language index above).ending = .complete) (below : List Text) :
    outline language index (above ++ below)
      = ⟨(outline language index above).parts
            ++ (outline language (index + above.length) below).parts,
          (outline language (index + above.length) below).ending⟩ := by
  fun_induction outline language index above with
  | case1 index => rfl
  | case2 index line lines failure hline => cases habove
  | case3 index line lines hline ih =>
    rw [List.cons_append, outline_prose hline, ih habove, List.length_cons, Nat.add_assoc,
      Nat.add_comm 1]
    rfl
  | case4 index line lines opening hline hdrop => cases habove
  | case5 index line lines opening hline closing rest hdrop ih =>
    obtain ⟨hlines, hcloses⟩ := innerLines_append hdrop
    have hinner : ∀ l ∈ innerLines lines, closes l = false := closes_of_mem_innerLines
    have hblock := outline_block hline hinner hcloses (rest ++ below)
    have hindex : index + (innerLines lines).length + 2 + rest.length
        = index + (line :: lines).length := by
      have hlength := congrArg List.length hlines
      rw [List.length_append, List.length_cons] at hlength
      rw [List.length_cons]
      omega
    have hsplit : innerLines lines ++ closing :: (rest ++ below) = lines ++ below := by
      rw [← List.cons_append, ← List.append_assoc, hlines]
    rw [hsplit, ih habove, hindex] at hblock
    rw [List.cons_append, hblock]
    rfl

/-- Lines that open no block are copied. -/
theorem outline_copied {copied : List Text}
    (hcopied : ∀ line ∈ copied, Fence.info? language (Text.chomp line) = none) (index : Nat) :
    outline language index copied = ⟨copied.map .prose, .complete⟩ := by
  induction copied generalizing index with
  | nil =>
    rw [outline]
    rfl
  | cons line copied ih =>
    obtain ⟨hline, hcopied⟩ := List.forall_mem_cons.1 hcopied
    rw [outline_prose (Fence.classify_eq_none_iff.2 hline), ih hcopied]
    rfl

/-- The outline of a page with lines put in: the parts above as they are, the lines, and the parts
below moved down. -/
theorem outline_insert {above inserted : List Text}
    (habove : (outline language 0 above).ending = .complete)
    (hinserted : ∀ line ∈ inserted, Fence.info? language (Text.chomp line) = none)
    (below : List Text) :
    outline language 0 (above ++ (inserted ++ below))
      = let rest := (outline language above.length below).movedDown inserted.length
        ⟨(outline language 0 above).parts ++ (inserted.map .prose ++ rest.parts), rest.ending⟩ := by
  have hcomplete : (outline language above.length inserted).ending = .complete := by
    rw [outline_copied hinserted]
  rw [outline_append_of_complete habove, Nat.zero_add, outline_append_of_complete hcomplete,
    outline_copied hinserted, outline_movedDown]

end

/-! ## Requests of blocks that stand elsewhere -/

/-- The block, wherever it stands. -/
def Block.unplaced (block : Block) : Block :=
  { block with startLine := 0 }

theorem bodies_unplaced (closed : List Block) :
    bodies (closed.map Block.unplaced) = bodies closed := by
  rw [bodies, List.flatMap_map]
  rfl

theorem publicBlocks_unplaced (family : Family) (closed : List Block) :
    publicBlocks family (closed.map Block.unplaced)
      = (publicBlocks family closed).map Block.unplaced := by
  rw [publicBlocks, List.filter_map]
  rfl

theorem gathered_unplaced (family : Family) (id : CollectionId) (closed : List Block) :
    gathered family id (closed.map Block.unplaced)
      = (gathered family id closed).map Block.unplaced := by
  induction closed using List.reverseRecOn with
  | nil => rfl
  | append_singleton closed b ih =>
    have hkind : b.unplaced.kind = b.kind := rfl
    rw [List.map_append, List.map_singleton, gathered_concat, gathered_concat, hkind, ih]
    by_cases hrun : b.kind = .execute family id
    · simp [hrun]
    · by_cases hcollect : b.kind = .collect family id <;> simp [hrun, hcollect]

section

variable {options : Options} {closed others : List Block}

/-- What a block asks for does not depend on where it and the blocks above it stand. -/
theorem request?_movedDown (n : Nat)
    (hclosed : others.map Block.unplaced = closed.map Block.unplaced) (block : Block) :
    request? options others (block.movedDown n)
      = (request? options closed block).mapError (·.movedDown n) := by
  have hgathered : ∀ family id, (gathered family id others).map Block.unplaced
      = (gathered family id closed).map Block.unplaced := by
    intro family id
    rw [← gathered_unplaced, hclosed, gathered_unplaced]
  have hbodies : ∀ family id, bodies (gathered family id others)
      = bodies (gathered family id closed) := by
    intro family id
    rw [← bodies_unplaced, hgathered, bodies_unplaced]
  have hpublic : ∀ family, bodies (publicBlocks family others)
      = bodies (publicBlocks family closed) := by
    intro family
    rw [← bodies_unplaced, ← publicBlocks_unplaced, hclosed, publicBlocks_unplaced, bodies_unplaced]
  have hempty : ∀ family id, gathered family id others = [] ↔ gathered family id closed = [] := by
    intro family id
    rw [← List.map_eq_nil_iff, hgathered, List.map_eq_nil_iff]
  unfold request?
  cases hkind : block.kind with
  | skip | collect | singleFile => simp [Block.movedDown, hkind, Except.mapError]
  | plain =>
    simp only [Block.movedDown, hkind]
    cases options.entryPoint.wrap block.body <;> rfl
  | execute family id =>
    simp only [Block.movedDown, hkind, hempty, collectionRequest, hpublic, hbodies]
    by_cases hnone : gathered family id closed = []
    · simp only [if_pos hnone, Except.mapError, Failure.movedDown, Block.lineNumber,
        Nat.add_right_comm]
    · simp only [if_neg hnone, Except.mapError]

theorem unplaced_concat (n : Nat)
    (hclosed : others.map Block.unplaced = closed.map Block.unplaced) (block : Block) :
    (others ++ [block.movedDown n]).map Block.unplaced
      = (closed ++ [block]).map Block.unplaced := by
  rw [List.map_append, List.map_append, hclosed]
  rfl

theorem plannedIn_movedDown (n : Nat)
    (hclosed : others.map Block.unplaced = closed.map Block.unplaced) (parts : List Part) :
    plannedIn options others (parts.map (·.movedDown n)) = plannedIn options closed parts := by
  induction parts generalizing others closed with
  | nil => rfl
  | cons part parts ih =>
    cases part with
    | prose line => exact ih hclosed
    | block block =>
      have hrest := ih (unplaced_concat n hclosed block)
      rw [List.map_cons, Part.movedDown, plannedIn, plannedIn, request?_movedDown n hclosed, hrest]
      rcases request? options closed block with failure | _ | request <;> rfl

theorem plannedIn_prose (lines : List Text) (parts : List Part) :
    plannedIn options closed (lines.map .prose ++ parts) = plannedIn options closed parts := by
  induction lines with
  | nil => rfl
  | cons line lines ih => exact ih

end

/-! ## Rendering parts that stand elsewhere -/

/-- A rendering with a text in front of it. -/
def prefixed (shown : Text) (rendered : Except Failure Text × Session σ) :
    Except Failure Text × Session σ :=
  (rendered.1.map (shown ++ ·), rendered.2)

section

variable {options : Options} {runner : Runner σ} {closed : List Block} {block : Block}
  {session after : Session σ} {shown : Text}

theorem prefixed_prefixed (first second : Text) (rendered : Except Failure Text × Session σ) :
    prefixed first (prefixed second rendered) = prefixed (first ++ second) rendered := by
  rcases rendered with ⟨failure | text, after⟩
  · rfl
  · simp [prefixed, Except.map]

theorem renderParts_prose (line : Text) (parts : List Part) (session : Session σ) :
    renderParts options runner closed (.prose line :: parts) session
      = prefixed line (renderParts options runner closed parts session) := by
  rw [renderParts]
  rcases renderParts options runner closed parts session with ⟨failure | text, after⟩ <;> rfl

theorem renderParts_block_of_error {failure : Failure}
    (h : renderBlock options runner closed block session = (.error failure, after))
    (parts : List Part) :
    renderParts options runner closed (.block block :: parts) session = (.error failure, after) := by
  rw [renderParts, h]

theorem renderParts_block_of_ok
    (h : renderBlock options runner closed block session = (.ok shown, after))
    (parts : List Part) :
    renderParts options runner closed (.block block :: parts) session
      = prefixed shown (renderParts options runner (closed ++ [block]) parts after) := by
  rw [renderParts, h]
  simp only
  rcases renderParts options runner (closed ++ [block]) parts after
    with ⟨failure | text, session'⟩ <;> rfl

/-- Lines in front of other parts. -/
theorem renderParts_copied (lines : List Text) (parts : List Part) (session : Session σ) :
    renderParts options runner closed (lines.map .prose ++ parts) session
      = prefixed lines.flatten (renderParts options runner closed parts session) := by
  induction lines with
  | nil =>
    rcases hparts : renderParts options runner closed parts session with ⟨failure | text, after⟩
    · simpa [prefixed, Except.map] using hparts
    · simpa [prefixed, Except.map] using hparts
  | cons line lines ih =>
    rw [List.map_cons, List.cons_append, renderParts_prose, ih, prefixed_prefixed,
      List.flatten_cons]

end

/-- What becomes of a rendering when the page is moved down. It leaves the same session. Either all
that is asked is answered, and then the text is the same, or the failure names its line further down;
or a request is refused, and that is the failure, now as before. -/
def MovesDown (n : Nat) (runner : Runner σ) (requests : List Request) (session : Session σ)
    (before moved : Except Failure Text × Session σ) : Prop :=
  moved.2 = before.2 ∧
    ((runner.AnswersAll requests session ∧ moved.1 = before.1.mapError (·.movedDown n)) ∨
      ∃ call ∈ runner.calls requests session, ∃ failure, call.answer = .error failure ∧
        before.1 = .error failure ∧ moved.1 = .error failure)

namespace MovesDown

variable {n : Nat} {runner : Runner σ} {requests : List Request} {session after : Session σ}
  {before moved : Except Failure Text × Session σ}

/-- The text in front makes no difference. -/
theorem prefixed (h : MovesDown n runner requests session before moved) (shown : Text) :
    MovesDown n runner requests session (prefixed shown before) (prefixed shown moved) := by
  obtain ⟨hsession, ⟨hanswered, hmoved⟩ | ⟨call, hcall, failure, hrefused, hbefore, hmoved⟩⟩ := h
  · refine ⟨hsession, .inl ⟨hanswered, ?_⟩⟩
    simp only [Weave.prefixed, hmoved]
    cases before.1 <;> rfl
  · refine ⟨hsession, .inr ⟨call, hcall, failure, hrefused, ?_, ?_⟩⟩
    · simp only [Weave.prefixed, hbefore, Except.map]
    · simp only [Weave.prefixed, hmoved, Except.map]

/-- Requests that were answered before make no difference either. -/
theorem append {answered : List Request} (hanswered : runner.AnswersAll answered session)
    (hafter : runner.afterAll answered session = after)
    (h : MovesDown n runner requests after before moved) :
    MovesDown n runner (answered ++ requests) session before moved := by
  obtain ⟨hsession, ⟨hrest, hmoved⟩ | ⟨call, hcall, hrefused⟩⟩ := h
  · refine ⟨hsession, .inl ⟨?_, hmoved⟩⟩
    rw [Runner.AnswersAll, Runner.calls_append, List.forall_mem_append, hafter]
    exact ⟨hanswered, hrest⟩
  · refine ⟨hsession, .inr ⟨call, ?_, hrefused⟩⟩
    rw [Runner.calls_append, hafter]
    exact List.mem_append_right _ hcall

end MovesDown

section

variable {options : Options} {runner : Runner σ} {closed others : List Block}

/-- Parts that stand `n` lines further down are rendered as they were. -/
theorem renderParts_movedDown (n : Nat)
    (hclosed : others.map Block.unplaced = closed.map Block.unplaced) (parts : List Part)
    (session : Session σ) :
    MovesDown n runner (runner.untilFailure (plannedIn options closed parts) session) session
      (renderParts options runner closed parts session)
      (renderParts options runner others (parts.map (·.movedDown n)) session) := by
  induction parts generalizing others closed session with
  | nil => exact ⟨rfl, .inl ⟨runner.answersAll_nil session, rfl⟩⟩
  | cons part parts ih =>
    rw [List.map_cons]
    cases part with
    | prose line =>
      rw [Part.movedDown, renderParts_prose, renderParts_prose]
      exact (ih hclosed session).prefixed line
    | block block =>
      have hrest := ih (unplaced_concat n hclosed block)
      have hmoved : request? options others (block.movedDown n) = _ :=
        request?_movedDown n hclosed block
      rw [Part.movedDown, plannedIn]
      cases hrequest : request? options closed block with
      | error failure =>
        rw [hrequest] at hmoved
        rw [renderParts_block_of_error (renderBlock_of_error hrequest),
          renderParts_block_of_error (renderBlock_of_error hmoved)]
        exact ⟨rfl, .inl ⟨runner.answersAll_nil session, rfl⟩⟩
      | ok made =>
        rw [hrequest] at hmoved
        cases made with
        | none =>
          rw [renderParts_block_of_ok (renderBlock_of_none hrequest),
            renderParts_block_of_ok (renderBlock_of_none hmoved)]
          exact (hrest session).prefixed _
        | some request =>
          rcases hrun : runner request session with ⟨failure | report, after⟩
          · rw [renderParts_block_of_error (renderBlock_of_refused hrequest hrun),
              renderParts_block_of_error (renderBlock_of_refused hmoved hrun)]
            simp only [runner.untilFailure_cons_of_error hrun]
            refine ⟨rfl, .inr ⟨⟨request, session, .error failure, after⟩, ?_, failure, rfl, rfl, rfl⟩⟩
            simp only [Runner.calls, hrun, List.mem_singleton]
          · rw [renderParts_block_of_ok (renderBlock_of_answered hrequest hrun),
              renderParts_block_of_ok (renderBlock_of_answered hmoved hrun)]
            simp only [runner.untilFailure_cons_of_ok hrun]
            have hanswered : runner.AnswersAll [request] session := by
              simp only [Runner.AnswersAll, Runner.calls, hrun, List.mem_singleton, forall_eq]
              exact ⟨report, rfl⟩
            have hafter : runner.afterAll [request] session = after := by
              simp only [Runner.afterAll, hrun]
            exact ((hrest after).prefixed _).append hanswered hafter

/-- Parts that are rendered have answers to what they ask, and what they ask comes first on a page
that goes on below them. -/
theorem plannedIn_append {above : List Part} {session after : Session σ} {text : Text}
    (habove : renderParts options runner closed above session = (.ok text, after)) :
    runner.AnswersAll (requestsOf options closed above) session ∧ ∀ below,
      plannedIn options closed (above ++ below) = requestsOf options closed above
        ++ plannedIn options (closed ++ blocksOf above) below := by
  induction above generalizing closed session text with
  | nil => exact ⟨runner.answersAll_nil session, fun below => by simp [requestsOf]⟩
  | cons part above ih =>
    cases part with
    | prose line =>
      rw [renderParts] at habove
      split at habove
      · simp at habove
      · next more session' hparts =>
        obtain ⟨-, rfl⟩ := Prod.mk.inj habove
        exact ih hparts
    | block block =>
      rw [renderParts] at habove
      split at habove
      · simp at habove
      · next shown between hblock =>
        split at habove
        · simp at habove
        · next more session' hparts =>
          obtain ⟨-, rfl⟩ := Prod.mk.inj habove
          obtain ⟨hanswered, hplanned⟩ := ih hparts
          obtain ⟨reports, hanswers, -⟩ := fill_of_renderBlock hblock
          rw [requestsOf]
          refine ⟨?_, fun below => ?_⟩
          · rw [Runner.answersAll_append, ← (session_renderBlock hblock).1]
            exact ⟨runner.answersAll_of_answers hanswers, hanswered⟩
          · rw [List.cons_append, plannedIn_block hblock, hplanned, blocksOf_block,
              List.append_assoc, List.append_assoc, List.singleton_append]

/-- Their text stands in front of what is rendered below them. -/
theorem renderParts_append {above : List Part} {session after : Session σ} {text : Text}
    (habove : renderParts options runner closed above session = (.ok text, after))
    (below : List Part) :
    renderParts options runner closed (above ++ below) session
      = prefixed text (renderParts options runner (closed ++ blocksOf above) below after) := by
  induction above generalizing closed session text with
  | nil =>
    obtain ⟨htext, rfl⟩ := Prod.mk.inj habove
    rw [← Except.ok.inj htext, blocksOf_nil, List.append_nil]
    exact renderParts_copied [] below session
  | cons part above ih =>
    cases part with
    | prose line =>
      rw [renderParts] at habove
      split at habove
      · simp at habove
      · next more session' hparts =>
        obtain ⟨htext, rfl⟩ := Prod.mk.inj habove
        rw [List.cons_append, renderParts_prose, ih hparts, prefixed_prefixed,
          ← Except.ok.inj htext, blocksOf_prose]
    | block block =>
      rw [renderParts] at habove
      split at habove
      · simp at habove
      · next shown between hblock =>
        split at habove
        · simp at habove
        · next more session' hparts =>
          obtain ⟨htext, rfl⟩ := Prod.mk.inj habove
          rw [List.cons_append, renderParts_block_of_ok hblock, ih hparts, prefixed_prefixed,
            ← Except.ok.inj htext, blocksOf_block, List.append_assoc, List.singleton_append]

end

/-! ## Pages -/

/-- A pass that has come outside of all blocks has rendered the parts above. -/
theorem renderParts_of_outside {options : Options} {runner : Runner σ} {lines : List Text}
    {session after : Session σ} {loom : Loom}
    (hrun : Loom.start.feedAll options runner 0 lines session = (.ok (), loom, after))
    (hphase : loom.phase = .outside) :
    (outline options.language 0 lines).ending = .complete ∧
      renderParts options runner [] (outline options.language 0 lines).parts session
        = (.ok loom.output, after) := by
  have hcome := feedAll_outline options runner lines rfl (Loom.follows_start 0) session
  rw [hrun] at hcome
  obtain ⟨hsession, hcome⟩ := hcome
  rcases hparts : renderParts options runner [] (outline options.language 0 lines).parts session
    with ⟨failure | text, session'⟩
  · simp [hparts] at hcome
  · rw [hparts] at hcome hsession
    cases hending : (outline options.language 0 lines).ending with
    | complete =>
      rw [hending] at hcome
      obtain ⟨-, -, hfollows⟩ := hcome
      rw [hfollows.output, List.nil_append, show after = session' from hsession]
      exact ⟨rfl, rfl⟩
    | refused failure => simp [hending] at hcome
    | unclosed block => simp [hending, hphase] at hcome

/-- What a page with a number of blocks comes to, by how it ends and what its parts are rendered
to. -/
def Ending.outcome (ending : Ending) (blocks : Nat) :
    Except Failure Text → Except Failure Page
  | .error failure => .error failure
  | .ok content =>
    match ending with
    | .complete => .ok ⟨content, blocks⟩
    | .refused failure => .error failure
    | .unclosed b => .error (.unterminatedBlock b.lineNumber)

theorem Outline.result_render (options : Options) (runner : Runner σ) (outline : Outline)
    (session : Session σ) :
    (outline.render options runner session).1
      = outline.ending.outcome (blocksOf outline.parts).length
          (renderParts options runner [] outline.parts session).1 := by
  unfold Outline.render
  rcases renderParts options runner [] outline.parts session with ⟨failure | text, after⟩
  · rfl
  · cases hending : outline.ending <;> rfl

section

variable {options : Options} {runner : Runner σ} {above inserted : Text} {session after : Session σ}
  {loom : Loom}

/-- A page with lines put in plans what it planned. -/
theorem planned_insert
    (habove : Loom.start.feedAll options runner 0 (Text.lines above) session = (.ok (), loom, after))
    (houtside : loom.phase = .outside) (hended : above = [] ∨ ∃ start, above = start ++ ['\n'])
    (hinserted : Silent options.language inserted) (below : Text) :
    planned options (above ++ inserted ++ below) = planned options (above ++ below) := by
  obtain ⟨hcomplete, hparts⟩ := renderParts_of_outside habove houtside
  obtain ⟨-, hplanned⟩ := plannedIn_append hparts
  rw [planned, planned, List.append_assoc, Text.lines_append hended, Text.lines_append hended,
    Text.lines_append hinserted.ended, outline_insert hcomplete hinserted.copied,
    outline_append_of_complete hcomplete, hplanned, hplanned, plannedIn_prose, Nat.zero_add]
  exact congrArg _ (plannedIn_movedDown _ rfl _)

/-- What lines that are put into a page do to it. All that is asked is answered, and then either the
page is rendered, and has these lines more, or the page is in error, and its failure names the line
further down; or a request is refused, and that is the failure. -/
theorem weave_insert_cases
    (habove : Loom.start.feedAll options runner 0 (Text.lines above) session = (.ok (), loom, after))
    (houtside : loom.phase = .outside) (hended : above = [] ∨ ∃ start, above = start ++ ['\n'])
    (hinserted : Silent options.language inserted) (below : Text) :
    let before := (weave options runner (above ++ below) session).result
    let edited := (weave options runner (above ++ inserted ++ below) session).result
    let requests := asked options runner (above ++ below) session
    (runner.AnswersAll requests session ∧ ∃ rest blocks, before = .ok ⟨loom.output ++ rest, blocks⟩ ∧
        edited = .ok ⟨loom.output ++ inserted ++ rest, blocks⟩) ∨
      (runner.AnswersAll requests session ∧ ∃ failure, before = .error failure ∧
        edited = .error (failure.movedDown (Text.lines inserted).length)) ∨
      ∃ call ∈ runner.calls requests session, ∃ failure, call.answer = .error failure ∧
        before = .error failure ∧ edited = .error failure := by
  obtain ⟨hcomplete, hparts⟩ := renderParts_of_outside habove houtside
  obtain ⟨hanswered, hplanned⟩ := plannedIn_append hparts
  obtain ⟨hafter, -⟩ := session_renderParts hparts
  have hlines := outline_append_of_complete hcomplete (Text.lines below)
  have hlines' := outline_insert hcomplete hinserted.copied (Text.lines below)
  rw [← Text.lines_append hended, Nat.zero_add] at hlines
  rw [← Text.lines_append hinserted.ended, ← Text.lines_append hended, ← List.append_assoc]
    at hlines'
  intro before edited requests
  have hrequests : requests = _ := asked_eq_planned options runner (above ++ below) session
  have hbefore : before = _ := outcome_weave.1
  have hedited : edited = _ := outcome_weave.1
  rw [planned, hlines, hplanned, runner.untilFailure_append hanswered, ← hafter, List.nil_append]
    at hrequests
  rw [hlines, Outline.result_render, renderParts_append hparts] at hbefore
  rw [hlines', Outline.result_render, renderParts_append hparts, renderParts_copied,
    prefixed_prefixed, Text.flatten_lines] at hedited
  generalize (outline options.language 0 (Text.lines above)).parts = head
    at hrequests hbefore hedited hanswered hafter
  generalize outline options.language (Text.lines above).length (Text.lines below) = rest
    at hrequests hbefore hedited
  simp only [Outline.movedDown, blocksOf_append, blocksOf_copied, List.nil_append,
    List.length_append, length_blocksOf_movedDown] at hbefore hedited
  -- the parts below are rendered as they were
  obtain ⟨-, hmoves⟩ : MovesDown (Text.lines inserted).length runner requests session
      (renderParts options runner (blocksOf head) rest.parts after)
      (renderParts options runner (blocksOf head)
        (rest.parts.map (·.movedDown (Text.lines inserted).length)) after) := by
    rw [hrequests]
    exact (renderParts_movedDown _ rfl rest.parts after).append hanswered hafter.symm
  generalize renderParts options runner (blocksOf head) rest.parts after = rendered
    at hbefore hmoves
  generalize renderParts options runner (blocksOf head)
    (rest.parts.map (·.movedDown (Text.lines inserted).length)) after = moved at hedited hmoves
  obtain ⟨hall, hmoved⟩ | ⟨call, hcall, failure, hrefused, hrendered, hmoved⟩ := hmoves
  · simp only [prefixed, hmoved] at hbefore hedited
    cases hrendered : rendered.1 with
    | error failure =>
      rw [hrendered] at hbefore hedited
      exact .inr (.inl ⟨hall, failure, hbefore, hedited⟩)
    | ok text =>
      rw [hrendered] at hbefore hedited
      cases hending : rest.ending with
      | complete =>
        rw [hending] at hbefore hedited
        exact .inl ⟨hall, text, _, hbefore, hedited⟩
      | refused failure =>
        rw [hending] at hbefore hedited
        exact .inr (.inl ⟨hall, failure, hbefore, hedited⟩)
      | unclosed block =>
        rw [hending] at hbefore hedited
        refine .inr (.inl ⟨hall, .unterminatedBlock block.lineNumber, hbefore, ?_⟩)
        rw [hedited]
        simp only [Except.mapError, Except.map, Ending.outcome, Ending.movedDown, Block.movedDown,
          Failure.movedDown, Block.lineNumber, Nat.add_right_comm]
  · simp only [prefixed, hmoved, hrendered] at hbefore hedited
    exact .inr (.inr ⟨call, hcall, failure, hrefused, hbefore, hedited⟩)

/-- Lines that open no block can be put into a page anywhere outside of its blocks. It asks the same,
in the same order, and the session is left the same. If the page was rendered, it is rendered with
these lines more, in their place, and with the same number of blocks. If it was in error, it is in the
same error, which names its line as many lines further down; only a failure that the runner gave,
which knows no lines, is passed on as it is. -/
theorem weave_insert
    (habove : Loom.start.feedAll options runner 0 (Text.lines above) session = (.ok (), loom, after))
    (houtside : loom.phase = .outside) (hended : above = [] ∨ ∃ start, above = start ++ ['\n'])
    (hinserted : Silent options.language inserted) (below : Text) :
    let before := weave options runner (above ++ below) session
    let edited := weave options runner (above ++ inserted ++ below) session
    let requests := asked options runner (above ++ below) session
    asked options runner (above ++ inserted ++ below) session = requests ∧
      edited.session = before.session ∧
      (∀ page, before.result = .ok page → ∃ rest, page.content = loom.output ++ rest ∧
        edited.result = .ok ⟨loom.output ++ inserted ++ rest, page.managedBlocks⟩) ∧
      ∀ failure, before.result = .error failure →
        ((∀ call ∈ runner.calls requests session, call.answer = .error failure →
            failure.line? = none) →
          edited.result = .error (failure.movedDown (Text.lines inserted).length)) ∧
        ((∃ call ∈ runner.calls requests session, call.answer = .error failure) →
          edited.result = .error failure) := by
  intro before edited requests
  have hasked : asked options runner (above ++ inserted ++ below) session = requests := by
    rw [asked_eq_planned, planned_insert habove houtside hended hinserted, ← asked_eq_planned]
  have hcases := weave_insert_cases habove houtside hended hinserted below
  refine ⟨hasked, ?_, ?_, ?_⟩
  · rw [session_weave, session_weave, hasked]
  · intro page hpage
    obtain ⟨-, rest, blocks, hbefore, hedited⟩ | ⟨-, failure, hbefore, -⟩
      | ⟨-, -, failure, -, hbefore, -⟩ := hcases
    · obtain rfl : page = ⟨loom.output ++ rest, blocks⟩ := Except.ok.inj (hpage.symm.trans hbefore)
      exact ⟨rest, rfl, hedited⟩
    · cases hpage.symm.trans hbefore
    · cases hpage.symm.trans hbefore
  -- a failure of the page itself moves down, and one of the runner has no line of the page
  · intro failure hfailure
    obtain ⟨-, rest, blocks, hbefore, -⟩ | ⟨hall, failure', hbefore, hedited⟩
      | ⟨call, hcall, failure', hrefused, hbefore, hedited⟩ := hcases
    · cases hfailure.symm.trans hbefore
    · obtain rfl : failure = failure' := Except.error.inj (hfailure.symm.trans hbefore)
      refine ⟨fun _ => hedited, ?_⟩
      rintro ⟨call, hcall, hrefused⟩
      obtain ⟨report, hreport⟩ := hall call hcall
      cases hrefused.symm.trans hreport
    · obtain rfl : failure = failure' := Except.error.inj (hfailure.symm.trans hbefore)
      refine ⟨fun hlines => ?_, fun _ => hedited⟩
      rw [Failure.movedDown_of_line?_eq_none (hlines call hcall hrefused)]
      exact hedited

end

/-- The part of a page that collects a program. -/
def collectingPart : Text :=
  (["```zig -collect_1\n", "a\n", "```\n"].map String.toList).flatten

/-- A line about it. -/
def noteLine : Text :=
  "A note.\n".toList

/-- The part that runs the program twice, although it was collected once. -/
def runningPart : Text :=
  (["```zig -execute_1\n", "b\n", "```\n", "```zig -execute_1\n", "c\n", "```\n"].map
    String.toList).flatten

/-- With the note the first run asks the same, and the second one fails on the line below. -/
theorem weave_insert_note :
    let runner := Runner.cached Toolchain.counting .memory
    let before := weave .standard runner (collectingPart ++ runningPart) countingSession
    let edited := weave .standard runner (collectingPart ++ noteLine ++ runningPart) countingSession
    before.result = .error (.unresolvedCollection .run (.number 1) 7) ∧
      edited.result = .error (.unresolvedCollection .run (.number 1) 8) ∧
      asked .standard runner (collectingPart ++ noteLine ++ runningPart) countingSession
        = [⟨.run, "a\nb\n".toList⟩] ∧
      edited.session = before.session := by
  intro runner before edited
  have hfailure : before.result = .error (.unresolvedCollection .run (.number 1) 7) := by
    decide +kernel
  have hasked : asked .standard runner (collectingPart ++ runningPart) countingSession
      = [⟨.run, "a\nb\n".toList⟩] := by decide +kernel
  have hended : collectingPart = [] ∨ ∃ start, collectingPart = start ++ ['\n'] :=
    .inr ⟨"```zig -collect_1\na\n```".toList, by decide⟩
  have hnote : Silent Options.standard.language noteLine :=
    ⟨.inr ⟨"A note.".toList, by decide⟩, by decide⟩
  have hfeeds : (Loom.start.feedAll .standard runner 0 (Text.lines collectingPart)
      countingSession).1.isOk = true := by decide +kernel
  have houtside : (Loom.start.feedAll .standard runner 0 (Text.lines collectingPart)
      countingSession).2.1.phase = .outside := by decide +kernel
  rcases hfed : Loom.start.feedAll .standard runner 0 (Text.lines collectingPart) countingSession
    with ⟨failure | ⟨⟩, loom, after⟩
  · rw [hfed] at hfeeds
    cases hfeeds
  rw [hfed] at houtside
  obtain ⟨hsame, hsession, -, hfails⟩ := weave_insert hfed houtside hended hnote runningPart
  obtain ⟨hmoved, -⟩ := hfails _ hfailure
  -- the one request that is asked is answered
  have hall : runner.AnswersAll [⟨.run, "a\nb\n".toList⟩] countingSession := by
    have hanswer : (runner ⟨.run, "a\nb\n".toList⟩ countingSession).1.isOk = true := by
      decide +kernel
    simp only [Runner.AnswersAll, Runner.calls, List.mem_singleton, forall_eq]
    exact exists_ok_of_isOk hanswer
  refine ⟨hfailure, hmoved fun call hcall hrefused => ?_, hsame.trans hasked, hsession⟩
  rw [hasked] at hcall
  obtain ⟨report, hreport⟩ := hall call hcall
  cases hrefused.symm.trans hreport

end Weave

import Weave.Proofs.Gathering

/-!
# Weave.Proofs.Rendering — a page rendered part by part

The rendering of an outline, said without a loom: copied lines stand as they are, a block is echoed,
and what running it reports follows. What a block asks for depends on nothing but the blocks above
it (`request?`).

1. **Reference**: `renderBlock`, `renderParts`, `Outline.render`. A block that is rendered asks for
   nothing, or has an answer (`renderBlock_cases`).
2. **Relation**: `Loom.Follows` says what a loom knows after some blocks, `RunsTo` what a
   run of it comes to.
3. **Simulation**: `settle_closing` for one block, `feedAll_outline` for a run.
4. **Pages**: `weave_eq_render`, a page is the rendering of its outline.
-/

namespace Weave

variable {σ : Type}

/-! ## What a block asks for -/

/-- The request of a block that runs a collection: the public text of the family, what was gathered
since the last run, and the body of the block itself. -/
def collectionRequest (family : Family) (id : CollectionId) (closed : List Block) (block : Block) :
    Request :=
  ⟨family.mode,
    bodies (publicBlocks family closed) ++ bodies (gathered family id closed) ++ block.body⟩

/-- The request of a block below the blocks `closed`, if it makes one. -/
def request? (options : Options) (closed : List Block) (block : Block) :
    Except Failure (Option Request) :=
  match block.kind with
  | .skip => .ok none
  | .collect _ _ => .ok none
  | .plain =>
    match options.entryPoint.wrap block.body with
    | .ok program => .ok (some ⟨.run, program⟩)
    | .error cause => .error (.template cause)
  | .singleFile => .ok (some ⟨.run, block.body⟩)
  | .execute family id =>
    if gathered family id closed = [] then
      .error (.unresolvedCollection family id block.lineNumber)
    else .ok (some (collectionRequest family id closed block))

/-! ## The reference -/

/-- A block as it is shown: without its directives. -/
def echo (language : Text) (block : Block) : Text :=
  "```".toList ++ language ++ (block.highlight.elim [] fun braces => ' ' :: braces)
    ++ "\n".toList ++ block.body ++ "```\n".toList

/-- A report as it is shown. -/
def resultSection (resultTag report : Text) : Text :=
  '\n' :: "```".toList ++ resultTag ++ "\n".toList ++ report ++ "```\n".toList

/-- What stands for a block on the page. -/
def renderBlock (options : Options) (runner : Runner σ) (closed : List Block) (block : Block)
    (session : Session σ) : Except Failure Text × Session σ :=
  match request? options closed block with
  | .error failure => (.error failure, session)
  | .ok none => (.ok (echo options.language block), session)
  | .ok (some request) =>
    match runner request session with
    | (.error failure, session) => (.error failure, session)
    | (.ok report, session) =>
      (.ok (echo options.language block ++ resultSection options.resultTag report), session)

/-- What stands for some parts on the page, one after the other, up to the first failure. -/
def renderParts (options : Options) (runner : Runner σ) (closed : List Block) :
    List Part → Session σ → Except Failure Text × Session σ
  | [], session => (.ok [], session)
  | .prose line :: parts, session =>
    match renderParts options runner closed parts session with
    | (.error failure, session) => (.error failure, session)
    | (.ok text, session) => (.ok (line ++ text), session)
  | .block block :: parts, session =>
    match renderBlock options runner closed block session with
    | (.error failure, session) => (.error failure, session)
    | (.ok shown, session) =>
      match renderParts options runner (closed ++ [block]) parts session with
      | (.error failure, session) => (.error failure, session)
      | (.ok text, session) => (.ok (shown ++ text), session)

/-- The page of an outline. -/
def Outline.render (options : Options) (runner : Runner σ) (outline : Outline)
    (session : Session σ) : Except Failure Page × Session σ :=
  match renderParts options runner [] outline.parts session with
  | (.error failure, session) => (.error failure, session)
  | (.ok content, session) =>
    match outline.ending with
    | .complete => (.ok ⟨content, (blocksOf outline.parts).length⟩, session)
    | .refused failure => (.error failure, session)
    | .unclosed block => (.error (.unterminatedBlock block.lineNumber), session)

/-! ## What stands for a block -/

section

variable {options : Options} {runner : Runner σ} {closed : List Block} {block : Block}
  {session after : Session σ}

/-- A block that is in error asks for nothing. -/
theorem renderBlock_of_error {failure : Failure}
    (h : request? options closed block = .error failure) :
    renderBlock options runner closed block session = (.error failure, session) := by
  rw [renderBlock, h]

theorem renderBlock_of_none (h : request? options closed block = .ok none) :
    renderBlock options runner closed block session
      = (.ok (echo options.language block), session) := by
  rw [renderBlock, h]

theorem renderBlock_of_refused {request : Request} {failure : Failure}
    (h : request? options closed block = .ok (some request))
    (hrun : runner request session = (.error failure, after)) :
    renderBlock options runner closed block session = (.error failure, after) := by
  rw [renderBlock, h]
  simp only [hrun]

theorem renderBlock_of_answered {request : Request} {report : Text}
    (h : request? options closed block = .ok (some request))
    (hrun : runner request session = (.ok report, after)) :
    renderBlock options runner closed block session
      = (.ok (echo options.language block ++ resultSection options.resultTag report), after) := by
  rw [renderBlock, h]
  simp only [hrun]

/-- A block that is rendered makes no request, or has an answer to it. -/
theorem renderBlock_cases {shown : Text}
    (h : renderBlock options runner closed block session = (.ok shown, after)) :
    (request? options closed block = .ok none ∧ shown = echo options.language block ∧
        after = session) ∨
      ∃ request report, request? options closed block = .ok (some request) ∧
        runner request session = (.ok report, after) ∧
        shown = echo options.language block ++ resultSection options.resultTag report := by
  unfold renderBlock at h
  split at h
  · cases h
  · next hrequest =>
    obtain ⟨hshown, rfl⟩ := Prod.mk.inj h
    exact .inl ⟨hrequest, (Except.ok.inj hshown).symm, rfl⟩
  · next request hrequest =>
    split at h
    · cases h
    · next report session' hrun =>
      obtain ⟨hshown, rfl⟩ := Prod.mk.inj h
      exact .inr ⟨request, report, hrequest, hrun, (Except.ok.inj hshown).symm⟩

end

/-! ## The texts of a loom -/

theorem shownBlock_eq_echo (language : Text) (block : Block) :
    Loom.shownBlock language block = echo language block := by
  unfold Loom.shownBlock Loom.openingLine echo Text.endLine
  cases block.highlight <;> simp [Fence.marker]

theorem shownReport_eq_resultSection (resultTag report : Text) :
    Loom.shownReport resultTag report = resultSection resultTag report := by
  simp [Loom.shownReport, resultSection, Text.endLine, Fence.marker]

/-! ## What a loom knows -/

/-- The loom has closed the blocks `closed`, all of which start above the line `index`, and has put
out `text`. -/
structure Loom.Follows (loom : Loom) (index : Nat) (closed : List Block) (text : Text) : Prop where
  output : loom.output = text
  blocks : loom.blocks = closed.length
  holds : loom.collections.Holds closed
  above : ∀ b ∈ closed, b.startLine < index
  runnable : ∀ b ∈ closed, b.kind.Runnable

theorem Loom.follows_start (index : Nat) : Loom.start.Follows index [] [] where
  output := rfl
  blocks := rfl
  holds := Collections.holds_empty
  above := by simp
  runnable := by simp

/-- The phase and the warnings do not matter to it. -/
theorem Loom.Follows.resume {loom : Loom} {index : Nat} {closed : List Block} {text : Text}
    (h : loom.Follows index closed text) (phase : Phase) (warnings : List Fence.Warning) :
    { loom with phase := phase, warnings := warnings }.Follows index closed text :=
  ⟨h.output, h.blocks, h.holds, h.above, h.runnable⟩

/-- A loom goes on to know what it knows further down. -/
theorem Loom.Follows.mono {loom : Loom} {index later : Nat} {closed : List Block} {text : Text}
    (h : loom.Follows index closed text) (hle : index ≤ later) : loom.Follows later closed text :=
  { h with above := fun b hb => Nat.lt_of_lt_of_le (h.above b hb) hle }

/-- One more block is closed: the collections change with it, and its rendering is put out. -/
theorem Loom.Follows.close {loom loom' : Loom} {block : Block} {index : Nat} {closed : List Block}
    {text more : Text} (h : loom.Follows block.startLine closed text)
    (hblock : block.kind.Runnable) (hindex : block.startLine < index)
    (houtput : loom'.output = loom.output ++ more) (hblocks : loom'.blocks = loom.blocks + 1)
    (hholds : loom'.collections.Holds (closed ++ [block])) :
    loom'.Follows index (closed ++ [block]) (text ++ more) where
  output := by rw [houtput, h.output]
  blocks := by rw [hblocks, h.blocks, List.length_append, List.length_singleton]
  holds := hholds
  above := by
    intro b hb
    rcases List.mem_append.1 hb with hb | hb
    · exact Nat.lt_trans (h.above b hb) hindex
    · rw [List.mem_singleton.1 hb]
      exact hindex
  runnable := by
    intro b hb
    rcases List.mem_append.1 hb with hb | hb
    · exact h.runnable b hb
    · rw [List.mem_singleton.1 hb]
      exact hblock

/-! ## What a run comes to -/

/-- A run of a loom that had put out `text` comes to what a rendering and an ending say: the same
failure, or a loom that has closed the blocks `closed` and put out the rendering as well. -/
def RunsTo (ending : Ending) (index : Nat) (closed : List Block) (text : Text)
    (rendered : Except Failure Text × Session σ) (run : Except Failure Unit × Loom × Session σ) :
    Prop :=
  run.2.2 = rendered.2 ∧
  match rendered.1, ending with
  | .error failure, _ => run.1 = .error failure
  | .ok _, .refused failure => run.1 = .error failure
  | .ok more, .complete =>
    run.1 = .ok () ∧ run.2.1.phase = .outside ∧ run.2.1.Follows index closed (text ++ more)
  | .ok more, .unclosed block =>
    run.1 = .ok () ∧ run.2.1.phase = .inside block ∧ block.kind.Runnable
      ∧ run.2.1.Follows block.startLine closed (text ++ more)

variable {options : Options} {runner : Runner σ} {ending : Ending} {index : Nat}
  {closed all : List Block} {text : Text} {session : Session σ}
  {run : Except Failure Unit × Loom × Session σ}

/-- It does not matter which part of the page was put out when. -/
theorem RunsTo.append {shown more : Text}
    (h : RunsTo ending index all (text ++ shown) (.ok more, session) run) :
    RunsTo ending index all text (.ok (shown ++ more), session) run := by
  cases ending with
  | refused failure => exact h
  | complete => simpa only [RunsTo, List.append_assoc] using h
  | unclosed block => simpa only [RunsTo, List.append_assoc] using h

/-- A copied line in front. -/
theorem RunsTo.prose {line : Text} {parts : List Part}
    (h : RunsTo ending index all (text ++ line) (renderParts options runner closed parts session)
      run) :
    RunsTo ending index all text
      (renderParts options runner closed (.prose line :: parts) session) run := by
  unfold renderParts
  rcases hparts : renderParts options runner closed parts session with ⟨_ | more, session'⟩
  · rw [hparts] at h
    exact h
  · rw [hparts] at h
    exact h.append

/-- A block in front that was rendered. -/
theorem RunsTo.block {block : Block} {parts : List Part} {shown : Text} {session' : Session σ}
    (hblock : renderBlock options runner closed block session = (.ok shown, session'))
    (h : RunsTo ending index all (text ++ shown)
      (renderParts options runner (closed ++ [block]) parts session') run) :
    RunsTo ending index all text
      (renderParts options runner closed (.block block :: parts) session) run := by
  rw [renderParts, hblock]
  rcases hparts : renderParts options runner (closed ++ [block]) parts session'
    with ⟨_ | more, session''⟩
  · rw [hparts] at h
    simp only [hparts]
    exact h
  · rw [hparts] at h
    simp only [hparts]
    exact h.append

/-! ## Closing a block -/

/-- The request for a collection is the one that the blocks above say. -/
theorem collectionJob_of_holds {c : Collections} (hc : c.Holds closed)
    (hrun : ∀ b ∈ closed, b.kind.Runnable) (block : Block) (family : Family) {id : CollectionId}
    (hid : id.isPublic = false) :
    Loom.collectionJob c block family id
      = if gathered family id closed = [] then
          .error (.unresolvedCollection family id block.lineNumber)
        else .ok ⟨collectionRequest family id closed block, some (family, id)⟩ := by
  unfold Loom.collectionJob
  rw [Collections.resolve_of_holds hc, Collections.publicText_of_holds hc hrun, hid]
  by_cases hgathered : gathered family id closed = []
  · rw [if_pos hgathered, if_pos hgathered]
    rfl
  · rw [if_neg hgathered, if_neg hgathered]
    rfl

/-- The id of a collection that can be run is a number. -/
theorem isPublic_eq_false {block : Block} (hblock : block.kind.Runnable) {family : Family}
    {id : CollectionId} (hkind : block.kind = .execute family id) : id.isPublic = false := by
  cases id with
  | number value => rfl
  | everyone => exact absurd hkind (hblock family)

section Closing

variable {loom : Loom} {block : Block}

/-- A block that runs a collection: either nothing was gathered, or the request is made. -/
theorem readClosing_execute (h : loom.Follows block.startLine closed text)
    (hblock : block.kind.Runnable) {family : Family} {id : CollectionId}
    (hkind : block.kind = .execute family id) :
    loom.readClosing options block
      = if gathered family id closed = [] then
          .refused (.unresolvedCollection family id block.lineNumber)
            (loom.showBlock options block)
        else
          .awaiting ⟨collectionRequest family id closed block, some (family, id)⟩
            (loom.showBlock options block) := by
  have hid := isPublic_eq_false hblock hkind
  have hjob := collectionJob_of_holds h.holds h.runnable block family hid
  by_cases hgathered : gathered family id closed = []
  · rw [if_pos hgathered] at hjob ⊢
    simp only [Loom.readClosing, Loom.workOf, hkind, hjob, Except.map]
  · rw [if_neg hgathered] at hjob ⊢
    simp only [Loom.readClosing, Loom.workOf, hkind, hjob, Except.map]

/-- A block that makes a request: the runner answers it, and then the report is put out. -/
theorem settle_awaiting (h : loom.Follows block.startLine closed text)
    (hblock : block.kind.Runnable) (hindex : block.startLine < index) {job : Loom.Job}
    (hrequest : request? options closed block = .ok (some job.request))
    (hholds : ∀ report,
      ((loom.showBlock options block).answered options job report).collections.Holds
        (closed ++ [block])) (session : Session σ) :
    RunsTo .complete index (closed ++ [block]) text
      (renderBlock options runner closed block session)
      (Loom.settle options runner (.awaiting job (loom.showBlock options block)) session) := by
  simp only [renderBlock, hrequest, Loom.settle]
  rcases runner job.request session with ⟨_ | report, session'⟩
  · exact ⟨rfl, rfl⟩
  · refine ⟨rfl, rfl, rfl, h.close hblock hindex ?_ rfl (hholds report)⟩
    simp [Loom.answered, Loom.showBlock, Loom.emit, shownBlock_eq_echo,
      shownReport_eq_resultSection]

/-- A block that is closed is rendered as the blocks above it say. -/
theorem settle_closing (h : loom.Follows block.startLine closed text)
    (hblock : block.kind.Runnable) (hindex : block.startLine < index) (session : Session σ) :
    RunsTo .complete index (closed ++ [block]) text
      (renderBlock options runner closed block session)
      (Loom.settle options runner (loom.readClosing options block) session) := by
  have hshown : (loom.showBlock options block).output
      = loom.output ++ echo options.language block := by
    simp [Loom.showBlock, Loom.emit, shownBlock_eq_echo]
  -- by kind: what the renderer makes of the block is what the loom does at its closing line
  cases hkind : block.kind with
  | skip =>
    have hholds : loom.collections.Holds (closed ++ [block]) :=
      Collections.holds_concat h.holds (by simp [hkind]) (by simp [hkind])
    simp only [renderBlock, request?, Loom.readClosing, Loom.workOf, hkind, Loom.settle]
    exact ⟨rfl, rfl, rfl, h.close hblock hindex hshown rfl hholds⟩
  | collect family id =>
    have hholds := Collections.holds_record h.holds hkind h.above
    simp only [renderBlock, request?, Loom.readClosing, Loom.workOf, hkind, Loom.settle]
    exact ⟨rfl, rfl, rfl, h.close hblock hindex hshown rfl hholds⟩
  | plain =>
    have hholds : loom.collections.Holds (closed ++ [block]) :=
      Collections.holds_concat h.holds (by simp [hkind]) (by simp [hkind])
    cases hwrap : options.entryPoint.wrap block.body with
    | error cause =>
      simp only [renderBlock, request?, Loom.readClosing, Loom.workOf, hkind, hwrap, Loom.settle]
      exact ⟨rfl, rfl⟩
    | ok program =>
      simp only [Loom.readClosing, Loom.workOf, hkind, hwrap]
      apply settle_awaiting h hblock hindex
      · simp only [request?, hkind, hwrap]
      · exact fun _ => hholds
  | singleFile =>
    have hholds : loom.collections.Holds (closed ++ [block]) :=
      Collections.holds_concat h.holds (by simp [hkind]) (by simp [hkind])
    simp only [Loom.readClosing, Loom.workOf, hkind]
    apply settle_awaiting h hblock hindex
    · simp only [request?, hkind]
    · exact fun _ => hholds
  | execute family id =>
    have hholds :=
      Collections.holds_consume h.holds hkind (isPublic_eq_false hblock hkind)
    rw [readClosing_execute h hblock hkind]
    by_cases hgathered : gathered family id closed = []
    · simp only [renderBlock, request?, hkind, Loom.settle, if_pos hgathered]
      exact ⟨rfl, rfl⟩
    · rw [if_neg hgathered]
      apply settle_awaiting h hblock hindex
      · simp only [request?, hkind, if_neg hgathered]
      · exact fun _ => hholds

/-- A line that closes a block, and what is read below it. -/
theorem feedAll_closing (hphase : loom.phase = .inside block)
    (h : loom.Follows block.startLine closed text) (hblock : block.kind.Runnable)
    (hindex : block.startLine < index) {line : Text} (hline : closes line = true)
    {last : Nat} {parts : List Part} {rest : List Text}
    (hrest : ∀ (loom' : Loom) (shown : Text) (session' : Session σ), loom'.phase = .outside →
      loom'.Follows (index + 1) (closed ++ [block]) (text ++ shown) →
      RunsTo ending last all (text ++ shown)
        (renderParts options runner (closed ++ [block]) parts session')
        (loom'.feedAll options runner (index + 1) rest session'))
    (session : Session σ) :
    RunsTo ending last all text
      (renderParts options runner closed (.block block :: parts) session)
      (loom.feedAll options runner index (line :: rest) session) := by
  have hclosed : RunsTo .complete (index + 1) (closed ++ [block]) text
      (renderBlock options runner closed block session)
      (Loom.settle options runner (loom.readClosing options block) session) :=
    settle_closing h hblock (Nat.lt_succ_of_lt hindex) session
  rw [Loom.feedAll, Loom.feed_closing options runner hphase hline]
  generalize Loom.settle options runner (loom.readClosing options block) session = run at hclosed ⊢
  obtain ⟨result, loom', session'⟩ := run
  rcases hrendered : renderBlock options runner closed block session with ⟨failure | shown, after⟩
  · rw [hrendered] at hclosed
    obtain ⟨hsession, hresult⟩ := hclosed
    simp only at hsession hresult
    rw [renderParts, hrendered, hresult, hsession]
    exact ⟨rfl, rfl⟩
  · rw [hrendered] at hclosed
    obtain ⟨hsession, hresult, hout, hfollows⟩ := hclosed
    simp only at hsession hresult hout hfollows
    rw [hresult, hsession]
    exact (hrest loom' shown after hout hfollows).block hrendered

end Closing

/-! ## A run -/

/-- A loom that reads lines does what their outline says. The induction follows the outline: each
step of it takes one copied line, or one block with all its lines. -/
theorem feedAll_outline (options : Options) (runner : Runner σ) (lines : List Text) {loom : Loom}
    {index : Nat} {closed : List Block} {text : Text} (hphase : loom.phase = .outside)
    (h : loom.Follows index closed text) (session : Session σ) :
    RunsTo (outline options.language index lines).ending (index + lines.length)
      (closed ++ blocksOf (outline options.language index lines).parts) text
      (renderParts options runner closed (outline options.language index lines).parts session)
      (loom.feedAll options runner index lines session) := by
  fun_induction outline options.language index lines generalizing loom closed text session with
  | case1 index =>
    -- no line is left
    rw [blocksOf_nil, List.append_nil, Loom.feedAll]
    exact ⟨rfl, rfl, hphase, by simpa using h⟩
  | case2 index line lines failure hline =>
    -- the line is refused
    rw [Loom.feedAll, Loom.feed_refused options runner hphase hline]
    exact ⟨rfl, rfl⟩
  | case3 index line lines hline ih =>
    -- the line is copied
    have hout : (loom.emit line).phase = .outside := hphase
    have hemit : (loom.emit line).Follows (index + 1) closed (text ++ line) :=
      ⟨by rw [← h.output]; rfl, h.blocks, h.holds, (h.mono (Nat.le_succ index)).above, h.runnable⟩
    have hnext := ih hout hemit session
    rw [Nat.add_assoc, Nat.add_comm 1] at hnext
    rw [Loom.feedAll, Loom.feed_prose options runner hphase hline]
    exact hnext.prose
  | case4 index line lines opening hline hdrop =>
    -- the line opens a block, and no line closes it
    obtain ⟨warnings, hopen⟩ :=
      Loom.feedAll_opening options runner hphase hline closes_of_mem_innerLines [] session
    have hlines : innerLines lines ++ [] = lines := by
      rw [List.append_nil, innerLines_eq_self hdrop]
    rw [hlines] at hopen
    rw [hopen, blocksOf_nil, List.append_nil]
    refine ⟨rfl, rfl, rfl, runnable_of_classify hline, ?_⟩
    rw [List.append_nil]
    exact h.resume _ _
  | case5 index line lines opening hline closing rest hdrop ih =>
    -- the line opens a block that is closed
    obtain ⟨warnings, hopen⟩ :=
      Loom.feedAll_opening options runner hphase hline closes_of_mem_innerLines (closing :: rest)
        session
    obtain ⟨hlines, hcloses⟩ := innerLines_append hdrop
    rw [hlines] at hopen
    rw [hopen]
    have hresumed := h.resume (.inside (blockOf opening index (innerLines lines))) warnings
    have hlength : index + (innerLines lines).length + 1 + 1 + rest.length
        = index + (line :: lines).length := by
      have hcount := congrArg List.length hlines
      rw [List.length_append, List.length_cons] at hcount
      rw [List.length_cons]
      omega
    apply feedAll_closing rfl hresumed (runnable_of_classify hline) ?_ hcloses
    · intro loom' shown session' hout hfollows
      have hnext := ih hout hfollows session'
      rw [hlength, List.append_assoc] at hnext
      exact hnext
    · simp only [blockOf]
      omega

/-! ## From the first line on -/

/-- A pass that has come inside a block knows all blocks above it. -/
theorem follows_of_inside {options : Options} {runner : Runner σ} {lines : List Text}
    {session session' : Session σ} {loom : Loom} {block : Block}
    (hrun : Loom.start.feedAll options runner 0 lines session = (.ok (), loom, session'))
    (hphase : loom.phase = .inside block) :
    (outline options.language 0 lines).ending = .unclosed block ∧ block.kind.Runnable ∧
      ∃ text, loom.Follows block.startLine (closedBlocks options.language lines) text := by
  have hcome := feedAll_outline options runner lines rfl (Loom.follows_start 0) session
  rw [hrun, List.nil_append] at hcome
  obtain ⟨-, hcome⟩ := hcome
  generalize (renderParts options runner [] (outline options.language 0 lines).parts session).1
    = rendered at hcome
  cases hending : (outline options.language 0 lines).ending with
  | complete =>
    cases rendered with
    | error failure => simp at hcome
    | ok text => simp [hending, hphase] at hcome
  | refused failure =>
    cases rendered with
    | error failure => simp at hcome
    | ok text => simp [hending] at hcome
  | unclosed opened =>
    cases rendered with
    | error failure => simp at hcome
    | ok text =>
      rw [hending] at hcome
      obtain ⟨-, hopened, hrunnable, hfollows⟩ := hcome
      obtain rfl : block = opened := by
        rw [hphase] at hopened
        exact Phase.inside.inj hopened
      exact ⟨rfl, hrunnable, _, hfollows⟩

/-- What a pass from the first line on comes to is the page. -/
theorem render_of_runsTo {options : Options} {runner : Runner σ} {content : Text}
    {session : Session σ} {last : Nat} {page : Outline}
    (h : RunsTo page.ending last (blocksOf page.parts) []
      (renderParts options runner [] page.parts session)
      (Loom.start.feedAll options runner 0 (Text.lines content) session)) :
    ((weave options runner content session).result, (weave options runner content session).session)
      = page.render options runner session := by
  unfold weave Outline.render
  generalize Loom.start.feedAll options runner 0 (Text.lines content) session = run at h ⊢
  obtain ⟨result, loom, session'⟩ := run
  rcases hrendered : renderParts options runner [] page.parts session with ⟨failure | text, after⟩
  · rw [hrendered] at h
    obtain ⟨hsession, hresult⟩ := h
    simp only at hsession hresult
    rw [hresult, hsession]
  · rw [hrendered] at h
    obtain ⟨hsession, hresult⟩ := h
    simp only at hsession hresult
    cases hending : page.ending with
    | refused failure =>
      rw [hending] at hresult
      simp only at hresult
      rw [hresult, hsession]
    | complete =>
      rw [hending] at hresult
      obtain ⟨hresult, hout, hfollows⟩ := hresult
      rw [hresult, hsession]
      simp only [Loom.finish, hout, hfollows.output, hfollows.blocks, List.nil_append]
    | unclosed block =>
      rw [hending] at hresult
      obtain ⟨hresult, hinside, -⟩ := hresult
      rw [hresult, hsession]
      simp only [Loom.finish, hinside]

/-- A page is rendered part by part: its content, the number of its blocks, the first failure in the
order of the lines, and all that the runner was asked, in the order of the blocks. -/
theorem weave_eq_render (options : Options) (runner : Runner σ) (content : Text)
    (session : Session σ) :
    ((weave options runner content session).result, (weave options runner content session).session)
      = (outline options.language 0 (Text.lines content)).render options runner session := by
  have hrun := feedAll_outline options runner (Text.lines content) rfl (Loom.follows_start 0)
    session
  exact render_of_runsTo hrun

end Weave

import Weave.Proofs.Asking
import Weave.Proofs.Rendering
import Weave.Script

/-!
# Weave.Proofs.Feeding — lines that fail, and the lines after them

A loom can be given lines one by one, also after some of them failed. A line that fails takes nothing
back and leaves nothing half done: what was put out stays, the block that it closes is shown, and the
collections are as they were. So a block that runs a collection can be tried again below.

* `fed`: the ways in which a line can be read. Everything else follows from them.
* `output_feed`, `feed_of_error`: what every line keeps, and what a line that fails keeps.
* `Feeding`: any lines with any indices, one after the other, whether they fail or not.
* `get?_feeding`, `publicText_feeding`: what lines that record nothing leave of a collection.
* `feed_keepsOnFailure`: all of this for one more line, whatever was read before. A block that was
  answered has consumed its collection, so that it is not found a second time
  (`feed_keepsOnFailure_consumed`).
-/

namespace Weave

namespace Loom

variable {σ : Type}

/-! ## What a block leads to -/

/-- The request for a collection: a numbered one of which something was collected. -/
theorem collectionJob_eq (collections : Collections) (block : Block) (family : Family)
    (id : CollectionId) :
    collectionJob collections block family id
      = if id.isPublic then .error (.wildcardExecution family block.lineNumber)
        else
          match collections.get? family id with
          | none => .error (.unresolvedCollection family id block.lineNumber)
          | some fragment =>
            .ok ⟨⟨family.mode, collections.publicText family ++ fragment.body ++ block.body⟩,
              some (family, id)⟩ := by
  unfold collectionJob Collections.resolve
  cases id.isPublic with
  | true => rfl
  | false => cases collections.get? family id <;> rfl

/-- A block that runs a collection and leads to a request: the collection is a numbered one, of which
something was collected. -/
theorem job_of_execute {options : Options} {collections : Collections} {block : Block} {work : Work}
    {family : Family} {id : CollectionId} (hkind : block.kind = .execute family id)
    (h : workOf options collections block = .ok work) :
    id.isPublic = false ∧ ∃ fragment, collections.get? family id = some fragment ∧
      work = .run ⟨⟨family.mode, collections.publicText family ++ fragment.body ++ block.body⟩,
        some (family, id)⟩ := by
  simp only [workOf, hkind, collectionJob_eq] at h
  cases hid : id.isPublic with
  | true => simp [hid, Except.map] at h
  | false =>
    cases hget : collections.get? family id with
    | none => simp [hid, hget, Except.map] at h
    | some fragment =>
      simp only [hid, hget, Except.map, Bool.false_eq_true, if_false, Except.ok.injEq] at h
      exact ⟨rfl, fragment, rfl, h.symm⟩

/-- Work that fits a kind of block: only blocks that run a collection consume one. -/
inductive Work.Fits : BlockKind → Work → Prop where
  | rest : Fits .skip .rest
  | collect (family : Family) (id : CollectionId) : Fits (.collect family id) (.collect family id)
  | alone (kind : BlockKind) (request : Request) (hkind : ∀ family id, kind ≠ .execute family id) :
      Fits kind (.run ⟨request, none⟩)
  | execute (family : Family) (id : CollectionId) (request : Request)
      (hid : id.isPublic = false) : Fits (.execute family id) (.run ⟨request, some (family, id)⟩)

theorem fits_of_workOf {options : Options} {collections : Collections} {block : Block} {work : Work}
    (h : workOf options collections block = .ok work) : work.Fits block.kind := by
  cases hkind : block.kind with
  | skip =>
    simp only [workOf, hkind, Except.ok.injEq] at h
    rw [← h]
    exact .rest
  | collect family id =>
    simp only [workOf, hkind, Except.ok.injEq] at h
    rw [← h]
    exact .collect family id
  | plain =>
    simp only [workOf, hkind] at h
    split at h
    · rw [← Except.ok.inj h]
      exact .alone _ _ (by simp)
    · cases h
  | singleFile =>
    simp only [workOf, hkind, Except.ok.injEq] at h
    rw [← h]
    exact .alone _ _ (by simp)
  | execute family id =>
    obtain ⟨hid, fragment, -, rfl⟩ := job_of_execute hkind h
    exact .execute family id _ hid

/-! ## The ways to read a line -/

/-- How a line was read: its result, and the loom and the session that it left. -/
inductive Fed (options : Options) (runner : Runner σ) (loom : Loom) (index : Nat) (line : Text)
    (session : Session σ) : Except Failure Unit × Loom × Session σ → Prop where
  /-- The line would open a block, were it not in error. -/
  | refused (failure : Failure) (hphase : loom.phase = .outside)
      (hline : Fence.classify options.language (Text.chomp line) index = .error failure) :
      Fed options runner loom index line session (.error failure, loom, session)
  /-- The line is copied. -/
  | copied (hphase : loom.phase = .outside) :
      Fed options runner loom index line session (.ok (), loom.emit line, session)
  /-- The line opens a block. -/
  | opening (block : Block) (warnings : List Fence.Warning) (hphase : loom.phase = .outside) :
      Fed options runner loom index line session
        (.ok (), { loom with phase := .inside block, warnings := warnings }, session)
  /-- The line goes into the body of a block. -/
  | body (block longer : Block) (hphase : loom.phase = .inside block)
      (hline : closes line = false) :
      Fed options runner loom index line session
        (.ok (), { loom with phase := .inside longer }, session)
  /-- The line closes a block that is only shown. -/
  | shown (block : Block) (hphase : loom.phase = .inside block) (hline : closes line = true)
      (hkind : block.kind = .skip) :
      Fed options runner loom index line session (.ok (), loom.showBlock options block, session)
  /-- The line closes a block that is collected. -/
  | collected (block : Block) (family : Family) (id : CollectionId)
      (hphase : loom.phase = .inside block) (hline : closes line = true)
      (hkind : block.kind = .collect family id) :
      Fed options runner loom index line session
        (.ok (), { loom.showBlock options block with
          collections := loom.collections.record family id block }, session)
  /-- The line closes a block that fails: it is in error itself, or its request fails. -/
  | failed (block : Block) (failure : Failure) (after : Session σ)
      (hphase : loom.phase = .inside block) (hline : closes line = true) :
      Fed options runner loom index line session
        (.error failure, loom.showBlock options block, after)
  /-- The line closes a block whose request is answered. -/
  | answered (block : Block) (job : Job) (report : Text) (after : Session σ)
      (hphase : loom.phase = .inside block) (hline : closes line = true)
      (hwork : (Work.run job).Fits block.kind) :
      Fed options runner loom index line session
        (.ok (), (loom.showBlock options block).answered options job report, after)

theorem fed (options : Options) (runner : Runner σ) (loom : Loom) (index : Nat) (line : Text)
    (session : Session σ) :
    Fed options runner loom index line session
      (loom.feed options runner index line session) := by
  cases hphase : loom.phase with
  | outside =>
    cases hline : Fence.classify options.language (Text.chomp line) index with
    | error failure =>
      rw [feed_refused options runner hphase hline]
      exact .refused failure hphase hline
    | ok opening =>
      cases opening with
      | none =>
        rw [feed_prose options runner hphase hline]
        exact .copied hphase
      | some opening =>
        obtain ⟨warnings, hopen⟩ := feed_opening options runner hphase hline session
        rw [hopen]
        exact .opening _ warnings hphase
  | inside block =>
    cases hline : closes line with
    | false =>
      have hsame : loom = { loom with phase := .inside block } := by rw [← hphase]
      have hbody := feed_body options runner hline loom block index session
      rw [← hsame] at hbody
      rw [hbody]
      exact .body block _ hphase hline
    | true =>
      -- the kind of the block decides what work there is, and so what can come of it
      rw [feed_closing options runner hphase hline, readClosing]
      cases hwork : workOf options loom.collections block with
      | error failure => exact .failed block failure session hphase hline
      | ok work =>
        have hfits := fits_of_workOf hwork
        cases work with
        | rest =>
          generalize hkind : block.kind = kind at hfits
          cases hfits
          exact .shown block hphase hline hkind
        | collect family id =>
          generalize hkind : block.kind = kind at hfits
          cases hfits
          exact .collected block family id hphase hline hkind
        | run job =>
          simp only [settle]
          rcases runner job.request session with ⟨failure | report, after⟩
          · exact .failed block failure after hphase hline
          · exact .answered block job report after hphase hline hfits

/-! ## What a line keeps -/

section

variable {options : Options} {runner : Runner σ} {loom next : Loom} {index : Nat} {line : Text}
  {session after : Session σ}

/-- What was put out stays where it is. -/
theorem output_feed {result : Except Failure Unit}
    (h : loom.feed options runner index line session = (result, next, after)) :
    loom.output <+: next.output := by
  have hfed := fed options runner loom index line session
  rw [h] at hfed
  cases hfed with
  | refused failure hphase hline => exact List.prefix_refl _
  | copied hphase => exact List.prefix_append _ _
  | opening block warnings hphase => exact List.prefix_refl _
  | body block longer hphase hline => exact List.prefix_refl _
  | shown block hphase hline hkind => exact List.prefix_append _ _
  | collected block family id hphase hline hkind => exact List.prefix_append _ _
  | failed block failure after hphase hline => exact List.prefix_append _ _
  | answered block job report after hphase hline hwork =>
    exact (List.prefix_append _ _).trans (List.prefix_append _ _)

/-- A line that fails leaves the loom outside of blocks, and the collections as they were. Either it
was to open a block, and nothing has changed; or it closes a block, which is then shown and counted,
without a report. -/
theorem feed_of_error {failure : Failure}
    (h : loom.feed options runner index line session = (.error failure, next, after)) :
    next.phase = .outside ∧ next.collections = loom.collections ∧
      (Fence.classify options.language (Text.chomp line) index = .error failure ∧
          loom.phase = .outside ∧ next = loom ∧ after = session
        ∨ ∃ block, loom.phase = .inside block ∧ closes line = true ∧
          next.output = loom.output ++ echo options.language block ∧
          next.blocks = loom.blocks + 1) := by
  have hfed := fed options runner loom index line session
  rw [h] at hfed
  cases hfed with
  | refused failure hphase hline => exact ⟨hphase, rfl, .inl ⟨hline, hphase, rfl, rfl⟩⟩
  | failed block failure after hphase hline =>
    have hshown : (loom.showBlock options block).output
        = loom.output ++ echo options.language block := by
      rw [← shownBlock_eq_echo]
      rfl
    exact ⟨rfl, rfl, .inr ⟨block, hphase, hline, hshown, rfl⟩⟩

end

end Loom

/-! ## Collections along lines -/

/-- A block that was closed, and what came of it. -/
structure Closing where
  block : Block
  result : Except Failure Unit

/-- The block was added to the text of a collection: to its own, or to the public one. -/
def Closing.Records (family : Family) (id : CollectionId) (closing : Closing) : Prop :=
  closing.block.kind = .collect family id ∨ closing.block.kind = .collect family .everyone

/-- The block ran a collection, and its request was answered. -/
def Closing.Ran (family : Family) (id : CollectionId) (closing : Closing) : Prop :=
  closing.block.kind = .execute family id ∧ closing.result = .ok ()

/-- The block that a line closes, if it closes one, with what came of the line. -/
def Loom.closings (loom : Loom) (line : Text) (result : Except Failure Unit) : List Closing :=
  match loom.phase with
  | .outside => []
  | .inside block => if closes line then [⟨block, result⟩] else []

/-- A fragment to which the line adds nothing: it is run and gone, or it stays as it is. -/
theorem Loom.get?_feed {σ : Type} {options : Options} {runner : Runner σ} {loom next : Loom}
    {index : Nat} {line : Text} {session after : Session σ} {result : Except Failure Unit}
    {family : Family} {id : CollectionId}
    (h : loom.feed options runner index line session = (result, next, after))
    (hcollect : ∀ closing ∈ loom.closings line result, closing.block.kind ≠ .collect family id) :
    id.isPublic = false ∧ (∃ closing ∈ loom.closings line result, closing.Ran family id) ∧
        next.collections.get? family id = none
      ∨ (∀ closing ∈ loom.closings line result, ¬ closing.Ran family id) ∧
        next.collections.get? family id = loom.collections.get? family id := by
  have hfed := fed options runner loom index line session
  rw [h] at hfed
  cases hfed with
  | refused failure hphase hline => simp [closings, hphase]
  | copied hphase => simp [closings, hphase, emit]
  | opening block warnings hphase => simp [closings, hphase]
  | body block longer hphase hline => simp [closings, hphase, hline]
  | shown block hphase hline hkind =>
    simp [closings, hphase, hline, Closing.Ran, hkind, showBlock, emit]
  | collected block family' id' hphase hline hkind =>
    have hother : (family, id) ≠ (family', id') := by
      intro hsame
      obtain ⟨rfl, rfl⟩ := Prod.mk.inj hsame
      exact hcollect ⟨block, .ok ()⟩ (by simp [closings, hphase, hline]) hkind
    simp [closings, hphase, hline, Closing.Ran, hkind, Collections.get?_record, hother]
  | failed block failure after hphase hline =>
    simp [closings, hphase, hline, Closing.Ran, showBlock, emit]
  | answered block job report after hphase hline hwork =>
    generalize hkind : block.kind = kind at hwork
    cases hwork with
    | alone _ request halone =>
      simp [closings, hphase, hline, Closing.Ran, hkind, halone, answered, showBlock, emit]
    | execute family' id' request hid =>
      by_cases hsame : (family, id) = (family', id')
      · obtain ⟨rfl, rfl⟩ := Prod.mk.inj hsame
        left
        simp [closings, hphase, hline, Closing.Ran, hkind, hid, answered, showBlock, emit,
          Collections.get?_consume]
      · -- another collection was run, so this one is not consumed
        right
        have hnot : BlockKind.execute family' id' ≠ .execute family id := by
          intro hexecute
          rw [BlockKind.execute.injEq] at hexecute
          exact hsame (by rw [hexecute.1, hexecute.2])
        simp [closings, hphase, hline, Closing.Ran, hkind, hnot, answered, showBlock, emit,
          Collections.get?_consume, hsame]

/-- A loom is given lines one after the other, with any indices and by any runners, and goes on after
those that fail. The blocks that the lines close are noted. -/
inductive Feeding (options : Options) : Loom → List Closing → Loom → Prop where
  | nil (loom : Loom) : Feeding options loom [] loom
  | cons {σ : Type} {runner : Runner σ} {loom next last : Loom} {index : Nat} {line : Text}
      {session after : Session σ} {result : Except Failure Unit} {closings : List Closing}
      (hfeed : loom.feed options runner index line session = (result, next, after))
      (hrest : Feeding options next closings last) :
      Feeding options loom (loom.closings line result ++ closings) last

section

variable {options : Options} {loom last : Loom} {closings : List Closing} {family : Family}
  {id : CollectionId}

/-- What was put out stays where it is, whatever lines come and whether they fail. -/
theorem output_feeding (h : Feeding options loom closings last) : loom.output <+: last.output := by
  induction h with
  | nil loom => exact List.prefix_refl _
  | cons hfeed hrest ih => exact (Loom.output_feed hfeed).trans ih

/-- If nothing is added to a fragment, it stays as it is until it is run. -/
theorem get?_feeding (h : Feeding options loom closings last)
    (hcollect : ∀ closing ∈ closings, closing.block.kind ≠ .collect family id)
    (hran : ∀ closing ∈ closings, ¬ closing.Ran family id) :
    last.collections.get? family id = loom.collections.get? family id := by
  induction h with
  | nil loom => rfl
  | cons hfeed hrest ih =>
    rw [List.forall_mem_append] at hcollect hran
    rw [ih hcollect.2 hran.2]
    rcases Loom.get?_feed hfeed hcollect.1 with ⟨-, ⟨closing, hmem, hrun⟩, -⟩ | ⟨-, hsame⟩
    · exact absurd hrun (hran.1 closing hmem)
    · exact hsame

/-- Once it was run it is gone, unless something is added to it again. -/
theorem get?_feeding_of_ran (h : Feeding options loom closings last)
    (hcollect : ∀ closing ∈ closings, closing.block.kind ≠ .collect family id)
    (hran : ∃ closing ∈ closings, closing.Ran family id) :
    last.collections.get? family id = none := by
  induction h with
  | nil loom => simp at hran
  | @cons _ _ loom next last _ line _ _ result closings hfeed hrest ih =>
    rw [List.forall_mem_append] at hcollect
    by_cases hlater : ∃ closing ∈ closings, closing.Ran family id
    · exact ih hcollect.2 hlater
    · -- it was run by the first line, and not again
      have hnever : ∀ closing ∈ closings, ¬ closing.Ran family id := by simpa using hlater
      rw [get?_feeding hrest hcollect.2 hnever]
      rcases Loom.get?_feed hfeed hcollect.1 with ⟨-, -, hgone⟩ | ⟨hnot, -⟩
      · exact hgone
      · obtain ⟨closing, hmem, hrun⟩ := hran
        rcases List.mem_append.1 hmem with hmem | hmem
        · exact absurd hrun (hnot closing hmem)
        · exact absurd hrun (hnever closing hmem)

/-- The public text of a family stays as it is until a block is added to it: no block consumes it. -/
theorem publicText_feeding (h : Feeding options loom closings last)
    (hcollect : ∀ closing ∈ closings, closing.block.kind ≠ .collect family .everyone) :
    last.collections.publicText family = loom.collections.publicText family := by
  have hkept : last.collections.get? family .everyone = loom.collections.get? family .everyone := by
    induction h with
    | nil loom => rfl
    | cons hfeed hrest ih =>
      rw [List.forall_mem_append] at hcollect
      rw [ih hcollect.2]
      rcases Loom.get?_feed hfeed hcollect.1 with ⟨hid, -⟩ | ⟨-, hsame⟩
      · cases hid
      · exact hsame
  rw [Collections.publicText, hkept, Collections.publicText]

end

/-! ## What a line keeps if it fails -/

/-- What a line keeps that is given to a loom, and what it does not begin if it fails. -/
structure KeepsOnFailure (options : Options) (loom : Loom) (index : Nat) (line : Text) {σ : Type}
    (session : Session σ) (fed : Except Failure Unit × Loom × Session σ) : Prop where
  /-- What was put out stays where it is. -/
  output : loom.output <+: fed.2.1.output
  /-- It also does under all lines that follow. -/
  outputs : ∀ closings later, Feeding options fed.2.1 closings later → loom.output <+: later.output
  /-- After a failure the loom is outside of blocks. -/
  outside : ∀ failure, fed.1 = .error failure → fed.2.1.phase = .outside
  /-- After a failure the collections of both families are as they were. -/
  collections : ∀ failure, fed.1 = .error failure → fed.2.1.collections = loom.collections
  /-- An opening line that is in error changes nothing at all, and nobody is asked. -/
  opening : loom.phase = .outside → ∀ failure, fed.1 = .error failure →
    Fence.classify options.language (Text.chomp line) index = .error failure ∧
      fed.2.1 = loom ∧ fed.2.2 = session
  /-- A block that fails is shown and counted, and no report stands below it. -/
  closing : ∀ block, loom.phase = .inside block → ∀ failure, fed.1 = .error failure →
    closes line = true ∧ fed.2.1.output = loom.output ++ echo options.language block ∧
      fed.2.1.blocks = loom.blocks + 1
  /-- When the request of a block that runs a collection fails, a block below that runs it asks for the
  same public and collected text ahead of its own body, if nothing was added to them in between. Once
  one of these blocks was answered the collection is gone. -/
  again : ∀ block family id, loom.phase = .inside block → block.kind = .execute family id →
    (loom.advance options index line).asks ≠ [] → (∃ failure, fed.1 = .error failure) →
    ∃ fragment, loom.collections.get? family id = some fragment ∧
      let ahead := loom.collections.publicText family ++ fragment.body
      (loom.advance options index line).asks = [⟨family.mode, ahead ++ block.body⟩] ∧
      ∀ closings later retry index' line', Feeding options fed.2.1 closings later →
        (∀ closing ∈ closings, ¬ closing.Records family id) →
        later.phase = .inside retry → retry.kind = .execute family id → closes line' = true →
        ((∀ closing ∈ closings, ¬ closing.Ran family id) →
          (later.advance options index' line').asks = [⟨family.mode, ahead ++ retry.body⟩]) ∧
        ((∃ closing ∈ closings, closing.Ran family id) → ∃ shown,
          later.advance options index' line'
            = .refused (.unresolvedCollection family id retry.lineNumber) shown)

/-- The closing line of a block that runs a numbered collection: either nothing was collected, or
the request is made. -/
theorem Loom.advance_execute {options : Options} {loom : Loom} {block : Block} {family : Family}
    {id : CollectionId} (hphase : loom.phase = .inside block)
    (hkind : block.kind = .execute family id) (hid : id.isPublic = false) {line : Text}
    (hline : closes line = true) (index : Nat) :
    loom.advance options index line
      = match loom.collections.get? family id with
        | none => .refused (.unresolvedCollection family id block.lineNumber)
            (loom.showBlock options block)
        | some fragment =>
          .awaiting ⟨⟨family.mode,
            loom.collections.publicText family ++ fragment.body ++ block.body⟩, some (family, id)⟩
            (loom.showBlock options block) := by
  have hclose : Fence.isClose (Text.chomp line) = true := hline
  simp only [advance, hphase, hclose, if_true, readClosing, workOf, hkind, collectionJob_eq, hid]
  cases loom.collections.get? family id <;> rfl

/-- A block that runs a collection and asks for anything: what it asks, and where it comes from. -/
theorem Loom.asks_execute {options : Options} {loom : Loom} {block : Block} {family : Family}
    {id : CollectionId} (hphase : loom.phase = .inside block)
    (hkind : block.kind = .execute family id) {index : Nat} {line : Text}
    (hasks : (loom.advance options index line).asks ≠ []) :
    id.isPublic = false ∧ ∃ fragment, loom.collections.get? family id = some fragment ∧
      (loom.advance options index line).asks
        = [⟨family.mode, loom.collections.publicText family ++ fragment.body ++ block.body⟩] := by
  cases hline : closes line with
  | false =>
    have hopen : Fence.isClose (Text.chomp line) = false := hline
    simp [advance, hphase, hopen, Step.asks] at hasks
  | true =>
    cases hid : id.isPublic with
    | true =>
      have hclose : Fence.isClose (Text.chomp line) = true := hline
      simp [advance, hphase, hclose, readClosing, workOf, hkind, collectionJob_eq, hid, Except.map,
        Step.asks] at hasks
    | false =>
      rw [advance_execute hphase hkind hid hline] at hasks ⊢
      cases hget : loom.collections.get? family id with
      | none => simp [hget, Step.asks] at hasks
      | some fragment => exact ⟨rfl, fragment, rfl, rfl⟩

/-- Whatever was given to a loom before, and whatever it is given next: a line that fails leaves
nothing half done, and a block whose request failed can be tried again. -/
theorem feed_keepsOnFailure (options : Options) (loom : Loom) {σ : Type} (runner : Runner σ)
    (index : Nat) (line : Text) (session : Session σ) :
    KeepsOnFailure options loom index line session
      (loom.feed options runner index line session) := by
  generalize hfeed : loom.feed options runner index line session = fed
  obtain ⟨result, next, after⟩ := fed
  constructor
  case output => exact Loom.output_feed hfeed
  case outputs =>
    intro closings later hfeeding
    exact (Loom.output_feed hfeed).trans (output_feeding hfeeding)
  case outside =>
    rintro failure rfl
    exact (Loom.feed_of_error hfeed).1
  case collections =>
    rintro failure rfl
    exact (Loom.feed_of_error hfeed).2.1
  case opening =>
    rintro hphase failure rfl
    obtain ⟨-, -, ⟨hline, -, hnext, hafter⟩ | ⟨block, hinside, -⟩⟩ := Loom.feed_of_error hfeed
    · exact ⟨hline, hnext, hafter⟩
    · rw [hphase] at hinside
      cases hinside
  case closing =>
    rintro block hphase failure rfl
    obtain ⟨-, -, ⟨-, houtside, -⟩ | ⟨closed, hinside, hline, hshown⟩⟩ := Loom.feed_of_error hfeed
    · rw [hphase] at houtside
      cases houtside
    · rw [hphase] at hinside
      obtain rfl := Phase.inside.inj hinside
      exact ⟨hline, hshown⟩
  case again =>
    rintro block family id hphase hkind hasks ⟨failure, rfl⟩
    obtain ⟨hid, fragment, hget, hasked⟩ := Loom.asks_execute hphase hkind hasks
    obtain ⟨-, hcollections, -⟩ := Loom.feed_of_error hfeed
    refine ⟨fragment, hget, hasked, ?_⟩
    intro closings later retry index' line' hfeeding hrecords hretry hkind' hline'
    have hown : ∀ closing ∈ closings, closing.block.kind ≠ .collect family id :=
      fun closing hclosing h => hrecords closing hclosing (.inl h)
    have hpublic : ∀ closing ∈ closings, closing.block.kind ≠ .collect family .everyone :=
      fun closing hclosing h => hrecords closing hclosing (.inr h)
    -- what the second block asks is read off the collections that the lines in between left
    rw [Loom.advance_execute hretry hkind' hid hline']
    constructor
    · intro hran
      rw [get?_feeding hfeeding hown hran, publicText_feeding hfeeding hpublic, hcollections, hget]
      rfl
    · intro hran
      rw [get?_feeding_of_ran hfeeding hown hran]
      exact ⟨_, rfl⟩

/-- The lines of a page, whether they fail or not: the blocks that they close, and the loom and the
session that they leave. -/
def Loom.feedOn {σ : Type} (options : Options) (runner : Runner σ) (loom : Loom) (index : Nat) :
    List Text → Session σ → List Closing × Loom × Session σ
  | [], session => ([], loom, session)
  | line :: lines, session =>
    let fed := loom.feed options runner index line session
    let rest := feedOn options runner fed.2.1 (index + 1) lines fed.2.2
    (loom.closings line fed.1 ++ rest.1, rest.2)

theorem feeding_feedOn {σ : Type} (options : Options) (runner : Runner σ) (loom : Loom)
    (index : Nat) (lines : List Text) (session : Session σ) :
    Feeding options loom (loom.feedOn options runner index lines session).1
      (loom.feedOn options runner index lines session).2.1 := by
  induction lines generalizing loom index session with
  | nil => exact .nil loom
  | cons line lines ih => exact .cons rfl (ih _ _ _)

/-- The lines down to a block whose program is to fail once. -/
def failingLines : List Text :=
  ["```zig -collect_*\n", "p\n", "```\n", "```zig -collect_1\n", "a\n", "```\n",
    "```zig -execute_1\n", "b\n"].map String.toList

/-- The lines of a second block for the same collection, with a block of another family between. -/
def retryLines : List Text :=
  ["prose\n", "```zig -test_collect_1\n", "t\n", "```\n", "```zig -execute_1\n", "c\n"].map
    String.toList

/-- A session whose toolchain fails for the first program of the collection. -/
def failingSession : Session (World Script) :=
  .start (.ofDisk (.blank [])
    (.ofResponses [⟨none, some "p\na\nb\n".toList, false, .failure "1".toList []⟩]))

/-- The program fails, its block is shown without a report, and the second block is sent with what was
collected for the first one. -/
theorem feed_keepsOnFailure_retry :
    let runner := Runner.cached Toolchain.scripted .memory
    let above := Loom.start.feedOn .standard runner 0 failingLines failingSession
    let fed := above.2.1.feed .standard runner 8 "```\n".toList above.2.2
    let below := fed.2.1.feedOn .standard runner 9 retryLines fed.2.2
    fed.1 = .error (.toolchainFailure .run "1".toList []) ∧
      fed.2.1.phase = .outside ∧ fed.2.1.collections = above.2.1.collections ∧
      fed.2.1.output = above.2.1.output ++ "```zig\nb\n```\n".toList ∧
      (above.2.1.advance .standard 8 "```\n".toList).asks = [⟨.run, "p\na\nb\n".toList⟩] ∧
      (below.2.1.advance .standard 15 "```\n".toList).asks = [⟨.run, "p\na\nc\n".toList⟩] := by
  intro runner above fed below
  have hfailed : fed.1 = .error (.toolchainFailure .run "1".toList []) := by decide +kernel
  have hinside : above.2.1.phase
      = .inside ⟨.execute .run (.number 1), "b\n".toList, 6, none⟩ := by
    decide +kernel
  have hasked : (above.2.1.advance .standard 8 "```\n".toList).asks
      = [⟨.run, "p\na\nb\n".toList⟩] := by
    decide +kernel
  have hretry : below.2.1.phase
      = .inside ⟨.execute .run (.number 1), "c\n".toList, 13, none⟩ := by
    decide +kernel
  have hbetween : below.1.map (fun closing => closing.block.kind)
      = [.collect .test (.number 1)] := by
    decide +kernel
  have hkinds : ∀ closing ∈ below.1, closing.block.kind = .collect .test (.number 1) := by
    intro closing hclosing
    have hkind := List.mem_map_of_mem (f := fun closing => closing.block.kind) hclosing
    rw [hbetween] at hkind
    exact List.mem_singleton.1 hkind
  have hkeeps : KeepsOnFailure .standard above.2.1 8 "```\n".toList above.2.2 fed :=
    feed_keepsOnFailure .standard above.2.1 runner 8 "```\n".toList above.2.2
  obtain ⟨fragment, -, hasks, hagain⟩ := hkeeps.again _ .run (.number 1) hinside rfl
    (by rw [hasked]; simp) ⟨_, hfailed⟩
  have hfeeding : Feeding .standard fed.2.1 below.1 below.2.1 :=
    feeding_feedOn .standard runner fed.2.1 9 retryLines fed.2.2
  obtain ⟨hsent, -⟩ := hagain below.1 below.2.1 _ 15 "```\n".toList hfeeding
    (fun closing hclosing => by simp [Closing.Records, hkinds closing hclosing])
    hretry rfl (by decide)
  have hshown := (hkeeps.closing _ hinside _ hfailed).2.1
  -- what stands ahead of the two bodies is the same
  have hahead : above.2.1.collections.publicText .run ++ fragment.body = "p\na\n".toList := by
    rw [hasked] at hasks
    have hbody := congrArg Request.body (List.singleton_inj.1 hasks)
    have hsame : "p\na\n".toList ++ "b\n".toList
        = above.2.1.collections.publicText .run ++ fragment.body ++ "b\n".toList := hbody
    exact (List.append_cancel_right hsame).symm
  refine ⟨hfailed, hkeeps.outside _ hfailed, hkeeps.collections _ hfailed, hshown, hasked, ?_⟩
  rw [hsent fun closing hclosing => by simp [Closing.Ran, hkinds closing hclosing], hahead]
  rfl

/-- The lines of a second block for the same collection, and of a third one. -/
def thirdLines : List Text :=
  ["```zig -execute_1\n", "c\n", "```\n", "```zig -execute_1\n", "d\n"].map String.toList

/-- Nothing was added to the collection since the program failed, but the second block was answered and
has consumed it: the third block sends nothing. -/
theorem feed_keepsOnFailure_consumed :
    let runner := Runner.cached Toolchain.scripted .memory
    let above := Loom.start.feedOn .standard runner 0 failingLines failingSession
    let fed := above.2.1.feed .standard runner 8 "```\n".toList above.2.2
    let below := fed.2.1.feedOn .standard runner 9 thirdLines fed.2.2
    above.2.1.phase = .inside ⟨.execute .run (.number 1), "b\n".toList, 6, none⟩ ∧
      (above.2.1.advance .standard 8 "```\n".toList).asks = [⟨.run, "p\na\nb\n".toList⟩] ∧
      fed.1 = .error (.toolchainFailure .run "1".toList []) ∧
      (∀ closing ∈ below.1, ¬ closing.Records .run (.number 1)) ∧
      below.2.1.phase = .inside ⟨.execute .run (.number 1), "d\n".toList, 12, none⟩ ∧
      (below.2.1.advance .standard 14 "```\n".toList).asks = [] ∧
      (below.2.1.feed .standard runner 14 "```\n".toList below.2.2).1
        = .error (.unresolvedCollection .run (.number 1) 13) := by
  intro runner above fed below
  have hbetween : below.1.map (fun closing => closing.block.kind)
      = [.execute .run (.number 1)] := by
    decide +kernel
  refine ⟨by decide +kernel, by decide +kernel, by decide +kernel, ?_, by decide +kernel,
    by decide +kernel, by decide +kernel⟩
  intro closing hclosing
  have hkind := List.mem_map_of_mem (f := fun closing => closing.block.kind) hclosing
  rw [hbetween] at hkind
  simp [Closing.Records, List.mem_singleton.1 hkind]

end Weave

import Weave.Proofs.Feeding
import Weave.Proofs.OpeningLines

/-!
# Weave.Proofs.Reachable — what lines can lead a loom to

A loom can be given lines with any indices, and it goes on after those that fail. Whatever lines led
to it, no block is open that would run the public collection: a directive for that is refused on its
line. If the indices grow, as they do on a page, then every fragment began above the block that is open,
so that a block which is collected never takes the place of text from above.

1. **Open blocks** come from an opening line and the lines below it (`inside_of_feed`), so they can be
   run (`runnable_feeding`).
2. **Collections** are what the blocks that did not fail make of them (`collections_feed`).
3. **Growing indices** (`Rising`): blocks are closed in the order in which they were opened
   (`ordered_of_rising`), so the collections hold what was gathered from them (`Rising.holds`), and a
   fragment stays until it is run (`Rising.get?_later`).
4. `reachable_keepsCollected` puts these together.
-/

namespace Weave

/-! ## Open blocks -/

namespace Loom

section

variable {σ : Type} {options : Options} {runner : Runner σ} {loom next : Loom} {index : Nat}
  {line : Text} {session after : Session σ} {result : Except Failure Unit}

/-- What becomes of a block when it is closed: the result, and the loom that is left. -/
inductive Closes (options : Options) (runner : Runner σ) (loom : Loom) (block : Block)
    (session : Session σ) : Except Failure Unit → Loom → Prop where
  | failed (failure : Failure) :
      Closes options runner loom block session (.error failure) (loom.showBlock options block)
  | shown (hwork : workOf options loom.collections block = .ok .rest) :
      Closes options runner loom block session (.ok ()) (loom.showBlock options block)
  | collected {family : Family} {id : CollectionId}
      (hwork : workOf options loom.collections block = .ok (.collect family id)) :
      Closes options runner loom block session (.ok ()) { loom.showBlock options block with
        collections := loom.collections.record family id block }
  | answered {job : Job} {report : Text}
      (hwork : workOf options loom.collections block = .ok (.run job))
      (hanswer : (runner job.request session).1 = .ok report) :
      Closes options runner loom block session (.ok ())
        ((loom.showBlock options block).answered options job report)

theorem closes_of_feed {block : Block} (hphase : loom.phase = .inside block)
    (hline : closes line = true)
    (h : loom.feed options runner index line session = (result, next, after)) :
    Closes options runner loom block session result next := by
  rw [feed_closing options runner hphase hline, readClosing] at h
  cases hwork : workOf options loom.collections block with
  | error failure =>
    simp only [hwork, settle] at h
    obtain ⟨rfl, rfl, -⟩ := h
    exact .failed failure
  | ok work =>
    cases work with
    | rest =>
      simp only [hwork, settle] at h
      obtain ⟨rfl, rfl, -⟩ := h
      exact .shown hwork
    | collect family id =>
      simp only [hwork, settle] at h
      obtain ⟨rfl, rfl, -⟩ := h
      exact .collected hwork
    | run job =>
      simp only [hwork, settle] at h
      rcases hanswer : runner job.request session with ⟨failure | report, world⟩
      · rw [hanswer] at h
        obtain ⟨rfl, rfl, -⟩ := h
        exact .failed failure
      · rw [hanswer] at h
        obtain ⟨rfl, rfl, -⟩ := h
        exact .answered hwork (congrArg Prod.fst hanswer)

/-- A closing line leaves the loom outside of blocks, whatever comes of it. -/
theorem outside_of_closing {block : Block} (hphase : loom.phase = .inside block)
    (hline : closes line = true)
    (h : loom.feed options runner index line session = (result, next, after)) :
    next.phase = .outside := by
  cases closes_of_feed hphase hline h with
  | failed failure => rfl
  | shown hwork => rfl
  | collected hwork => rfl
  | answered hwork hanswer => rfl

/-- The block that is open below a line was opened by that line, or the line is the last one of its
body. -/
theorem inside_of_feed (h : loom.feed options runner index line session = (result, next, after))
    {block : Block} (hinside : next.phase = .inside block) :
    (loom.phase = .outside ∧ ∃ opening,
        Fence.classify options.language (Text.chomp line) index = .ok (some opening) ∧
          block = .opened opening.kind index opening.highlight) ∨
      ∃ before, loom.phase = .inside before ∧ block = before.addLine (Text.chomp line) := by
  cases hphase : loom.phase with
  | outside =>
    cases hline : Fence.classify options.language (Text.chomp line) index with
    | error failure =>
      rw [feed_refused options runner hphase hline] at h
      obtain ⟨-, rfl, -⟩ := h
      rw [hphase] at hinside
      cases hinside
    | ok opening =>
      cases opening with
      | none =>
        rw [feed_prose options runner hphase hline] at h
        obtain ⟨-, rfl, -⟩ := h
        rw [emit, hphase] at hinside
        cases hinside
      | some opening =>
        obtain ⟨warnings, hopen⟩ := feed_opening options runner hphase hline session
        rw [hopen] at h
        obtain ⟨-, rfl, -⟩ := h
        exact .inl ⟨rfl, opening, rfl, (Phase.inside.inj hinside).symm⟩
  | inside before =>
    cases hline : closes line with
    | false =>
      have hsame : loom = { loom with phase := .inside before } := by rw [← hphase]
      rw [hsame, feed_body options runner hline] at h
      obtain ⟨-, rfl, -⟩ := h
      exact .inr ⟨before, rfl, (Phase.inside.inj hinside).symm⟩
    | true =>
      rw [outside_of_closing hphase hline h] at hinside
      cases hinside

/-- A line closes no block, or the one that was open. -/
theorem closings_cases (loom : Loom) (line : Text) (result : Except Failure Unit) :
    loom.closings line result = [] ∨
      ∃ block, loom.phase = .inside block ∧ closes line = true ∧
        loom.closings line result = [⟨block, result⟩] := by
  unfold closings
  cases hphase : loom.phase with
  | outside => exact .inl rfl
  | inside block =>
    cases hline : closes line with
    | false => exact .inl rfl
    | true => exact .inr ⟨block, rfl, rfl, rfl⟩

end

end Loom

/-- No line leads to an open block that would run the public collection. -/
theorem runnable_feeding {options : Options} {loom last : Loom} {closings : List Closing}
    (h : Feeding options loom closings last)
    (hloom : ∀ block, loom.phase = .inside block → block.kind.Runnable) :
    ∀ block, last.phase = .inside block → block.kind.Runnable := by
  induction h with
  | nil loom => exact hloom
  | cons hfeed hrest ih =>
    refine ih fun block hinside => ?_
    obtain ⟨-, opening, hline, rfl⟩ | ⟨before, hphase, rfl⟩ := Loom.inside_of_feed hfeed hinside
    · exact runnable_of_classify hline
    · exact hloom before hphase

/-- Lines can be given in two goes. -/
theorem Feeding.trans {options : Options} {loom between last : Loom} {closings more : List Closing}
    (h : Feeding options loom closings between) (hmore : Feeding options between more last) :
    Feeding options loom (closings ++ more) last := by
  induction h with
  | nil loom => exact hmore
  | cons hfeed hrest ih =>
    rw [List.append_assoc]
    exact .cons hfeed (ih hmore)

/-! ## What becomes of collections -/

/-- The collections after a block was closed and did not fail. -/
def Collections.close (c : Collections) (block : Block) : Collections :=
  match block.kind with
  | .collect family id => c.record family id block
  | .execute family id => c.consume family id
  | .plain | .skip | .singleFile => c

/-- A block that is not collected and runs no collection changes nothing. -/
theorem Collections.close_eq_self {c : Collections} {block : Block}
    (hrun : ∀ family id, block.kind ≠ .execute family id)
    (hcollect : ∀ family id, block.kind ≠ .collect family id) : c.close block = c := by
  unfold close
  split
  · next family id hkind => exact absurd hkind (hcollect family id)
  · next family id hkind => exact absurd hkind (hrun family id)
  all_goals rfl

/-- The blocks that were closed and did not fail. -/
def succeeded (closings : List Closing) : List Block :=
  (closings.filter (·.result.isOk)).map Closing.block

@[simp] theorem succeeded_nil : succeeded [] = [] := rfl

@[simp] theorem succeeded_error (block : Block) (failure : Failure) :
    succeeded [⟨block, .error failure⟩] = [] := rfl

@[simp] theorem succeeded_ok (block : Block) (done : Unit) :
    succeeded [⟨block, .ok done⟩] = [block] := rfl

theorem succeeded_append (closings more : List Closing) :
    succeeded (closings ++ more) = succeeded closings ++ succeeded more := by
  rw [succeeded, List.filter_append, List.map_append, succeeded, succeeded]

/-- Blocks whose requests are answered are not collected. -/
theorem Loom.ne_collect_of_run {options : Options} {collections : Collections} {block : Block}
    {job : Job} (h : workOf options collections block = .ok (.run job)) (family : Family)
    (id : CollectionId) : block.kind ≠ .collect family id := by
  intro hkind
  simp [workOf, hkind] at h

section

variable {σ : Type} {options : Options} {runner : Runner σ} {loom next : Loom} {index : Nat}
  {line : Text} {session after : Session σ} {result : Except Failure Unit}

/-- A closing line changes the collections as the block says, if it does not fail. -/
theorem Loom.collections_closing {block : Block} (hphase : loom.phase = .inside block)
    (hline : closes line = true)
    (h : loom.feed options runner index line session = (result, next, after)) :
    next.collections = if result.isOk then loom.collections.close block else loom.collections := by
  cases closes_of_feed hphase hline h with
  | failed failure => rfl
  | shown hwork =>
    have hfits := fits_of_workOf hwork
    generalize hkind : block.kind = kind at hfits
    cases hfits
    exact (Collections.close_eq_self (by simp [hkind]) (by simp [hkind])).symm
  | collected hwork =>
    have hfits := fits_of_workOf hwork
    generalize hkind : block.kind = kind at hfits
    cases hfits
    simp [Except.isOk, Except.toBool, Collections.close, hkind]
  | answered hwork hanswer =>
    have hfits := fits_of_workOf hwork
    have hcollect := ne_collect_of_run hwork
    generalize hkind : block.kind = kind at hfits hcollect
    cases hfits with
    | alone _ request halone =>
      -- its job has nothing to consume
      exact (Collections.close_eq_self (hkind ▸ halone) (hkind ▸ hcollect)).symm
    | execute family id request hid =>
      simp [Except.isOk, Except.toBool, Collections.close, hkind, answered, showBlock, emit]

/-- Only a block that does not fail changes the collections. -/
theorem Loom.collections_feed
    (h : loom.feed options runner index line session = (result, next, after)) :
    next.collections
      = (succeeded (loom.closings line result)).foldl Collections.close loom.collections := by
  have hclosed : ∀ block, loom.phase = .inside block → closes line = true →
      next.collections
        = (succeeded (loom.closings line result)).foldl Collections.close loom.collections := by
    intro block hphase hline
    rw [collections_closing hphase hline h]
    cases result <;> simp [closings, hphase, hline, Except.isOk, Except.toBool]
  have hfed := fed options runner loom index line session
  rw [h] at hfed
  cases hfed with
  | refused failure hphase hline => simp [closings, hphase]
  | copied hphase => simp [closings, hphase, emit]
  | opening block warnings hphase => simp [closings, hphase]
  | body block longer hphase hline => simp [closings, hphase, hline]
  | shown block hphase hline hkind => exact hclosed block hphase hline
  | collected block family id hphase hline hkind => exact hclosed block hphase hline
  | failed block failure after hphase hline => exact hclosed block hphase hline
  | answered block job report after hphase hline hwork => exact hclosed block hphase hline

end

/-- A fragment that the block does not run is still there, with the body behind it if the block is
collected. It is not replaced, for it began on another line. -/
theorem Collections.get?_close {c : Collections} {block : Block} {family : Family}
    {id : CollectionId} {fragment : Fragment} (hget : c.get? family id = some fragment)
    (hline : fragment.startLine ≠ block.startLine) (hrun : block.kind ≠ .execute family id) :
    (c.close block).get? family id
      = some ⟨fragment.body ++ bodies ([block].filter fun b => b.kind = .collect family id),
          fragment.startLine⟩ := by
  cases hkind : block.kind with
  | plain | skip | singleFile => simp [close, hkind, hget, bodies]
  | collect family' id' =>
    by_cases hkey : (family, id) = (family', id')
    · obtain ⟨rfl, rfl⟩ := Prod.mk.inj hkey
      simp [close, hkind, get?_record, hget, merged, hline, bodies]
    · have hother : ¬ (family' = family ∧ id' = id) := fun h => hkey (by rw [h.1, h.2])
      simp [close, hkind, get?_record, hkey, hget, hother, bodies]
  | execute family' id' =>
    have hkey : (family, id) ≠ (family', id') := by
      intro h
      obtain ⟨rfl, rfl⟩ := Prod.mk.inj h
      exact hrun hkind
    simp [close, hkind, get?_consume, hkey, hget, bodies]

/-- One more block, which starts below the others. -/
theorem Collections.Holds.close {c : Collections} {closed : List Block} {block : Block}
    (hc : c.Holds closed) (hblock : block.kind.Runnable)
    (habove : ∀ b ∈ closed, b.startLine < block.startLine) :
    (c.close block).Holds (closed ++ [block]) := by
  cases hkind : block.kind with
  | collect family id =>
    rw [Collections.close, hkind]
    exact holds_record hc hkind habove
  | execute family id =>
    rw [Collections.close, hkind]
    exact holds_consume hc hkind (isPublic_eq_false hblock hkind)
  | plain | skip | singleFile =>
    have hrun : ∀ family id, block.kind ≠ .execute family id := by simp [hkind]
    have hcollect : ∀ family id, block.kind ≠ .collect family id := by simp [hkind]
    rw [close_eq_self hrun hcollect]
    exact holds_concat hc hrun hcollect

/-! ## Growing indices -/

/-- Lines are given to a loom as in `Feeding`, and their indices grow: none is below `first`, and all
are below `next`. -/
inductive Rising (options : Options) (loom : Loom) (first : Nat) :
    List Closing → Nat → Loom → Prop where
  | nil {next : Nat} (hfirst : first ≤ next) : Rising options loom first [] next loom
  | snoc {σ : Type} {runner : Runner σ} {between last : Loom} {index next : Nat} {line : Text}
      {session after : Session σ} {result : Except Failure Unit} {closings : List Closing}
      (habove : Rising options loom first closings index between)
      (hfeed : between.feed options runner index line session = (result, last, after))
      (hindex : index < next) :
      Rising options loom first (closings ++ between.closings line result) next last

section

variable {options : Options} {loom between last : Loom} {first index next : Nat}
  {closings more : List Closing}

theorem Rising.feeding (h : Rising options loom first closings next last) :
    Feeding options loom closings last := by
  induction h with
  | nil hfirst => exact .nil loom
  | snoc habove hfeed hindex ih =>
    have hline := Feeding.cons hfeed (.nil _)
    rw [List.append_nil] at hline
    exact ih.trans hline

/-- The next line can be any one further down. -/
theorem Rising.mono (h : Rising options loom first closings index last) (hindex : index ≤ next) :
    Rising options loom first closings next last := by
  cases h with
  | nil hfirst => exact .nil (hfirst.trans hindex)
  | snoc habove hfeed hbefore => exact .snoc habove hfeed (hbefore.trans_le hindex)

theorem Rising.trans (habove : Rising options loom first closings index between)
    (hbelow : Rising options between index more next last) :
    Rising options loom first (closings ++ more) next last := by
  induction hbelow with
  | nil hindex =>
    rw [List.append_nil]
    exact habove.mono hindex
  | snoc _ hfeed hnext ih =>
    rw [← List.append_assoc]
    exact .snoc ih hfeed hnext

/-- The lines of a page, whether they fail or not. -/
theorem rising_feedOn {σ : Type} (options : Options) (runner : Runner σ) (loom : Loom)
    (index : Nat) (lines : List Text) (session : Session σ) :
    Rising options loom index (loom.feedOn options runner index lines session).1
      (index + lines.length) (loom.feedOn options runner index lines session).2.1 := by
  induction lines generalizing loom index session with
  | nil => exact .nil (Nat.le_refl _)
  | cons line lines ih =>
    have hline : Rising options loom index
        (loom.closings line (loom.feed options runner index line session).1) (index + 1)
        (loom.feed options runner index line session).2.1 :=
      .snoc (.nil (Nat.le_refl _)) rfl (Nat.lt_succ_self _)
    rw [List.length_cons, Nat.add_comm lines.length 1, ← Nat.add_assoc]
    exact hline.trans (ih _ _ _)

/-- The lines of a page, up to the first one that fails. -/
theorem rising_feedAll {σ : Type} (options : Options) (runner : Runner σ) (loom : Loom)
    (index : Nat) (lines : List Text) (session : Session σ) :
    ∃ closings, Rising options loom index closings (index + lines.length)
      (loom.feedAll options runner index lines session).2.1 := by
  induction lines generalizing loom index session with
  | nil => exact ⟨[], .nil (Nat.le_refl _)⟩
  | cons line lines ih =>
    rw [Loom.feedAll, List.length_cons, Nat.add_comm lines.length 1, ← Nat.add_assoc]
    rcases hfeed : loom.feed options runner index line session with ⟨failure | ⟨⟩, next, after⟩
    all_goals
      have hline := Rising.snoc (.nil (Nat.le_refl _)) hfeed (Nat.lt_succ_self _)
    · exact ⟨_, hline.mono (Nat.le_add_right _ _)⟩
    · obtain ⟨closings, hrest⟩ := ih next (index + 1) after
      exact ⟨_, hline.trans hrest⟩

/-- Blocks in the order in which they were opened, all of them above the next line. -/
structure Ordered (closings : List Closing) (next : Nat) (loom : Loom) : Prop where
  blocks : closings.Pairwise fun earlier later => earlier.block.startLine < later.block.startLine
  closed : ∀ closing ∈ closings, closing.block.startLine < next
  inside : ∀ block, loom.phase = .inside block → block.startLine < next ∧
    ∀ closing ∈ closings, closing.block.startLine < block.startLine

theorem ordered_of_rising (h : Rising options .start first closings next last) :
    Ordered closings next last := by
  induction h with
  | nil hfirst => exact ⟨.nil, by simp, fun block h => by cases h⟩
  | @snoc _ _ between last index next line _ _ result closings habove hfeed hindex ih =>
    have hclosed : ∀ closing ∈ closings, closing.block.startLine < next := fun closing hclosing =>
      (ih.closed closing hclosing).trans hindex
    rcases between.closings_cases line result with hnone | ⟨block, hphase, hline, hone⟩
    · -- the block that is open below the line was opened by it or above it
      rw [hnone, List.append_nil]
      refine ⟨ih.blocks, hclosed, fun block hinside => ?_⟩
      obtain ⟨-, opening, -, rfl⟩ | ⟨before, hphase, rfl⟩ := Loom.inside_of_feed hfeed hinside
      · exact ⟨hindex, ih.closed⟩
      · obtain ⟨hstart, habove⟩ := ih.inside before hphase
        exact ⟨hstart.trans hindex, habove⟩
    · rw [hone]
      obtain ⟨hstart, habove⟩ := ih.inside block hphase
      refine ⟨List.pairwise_append.2 ⟨ih.blocks, List.pairwise_singleton _ _, ?_⟩, ?_, ?_⟩
      · simpa using habove
      · simpa [or_imp, forall_and] using ⟨hclosed, hstart.trans hindex⟩
      · intro _ hinside
        rw [Loom.outside_of_closing hphase hline hfeed] at hinside
        cases hinside

/-- The collections hold what was gathered from the blocks that did not fail. -/
theorem Rising.holds (h : Rising options .start first closings next last) :
    last.collections.Holds (succeeded closings) := by
  induction h with
  | nil hfirst => exact Collections.holds_empty
  | @snoc _ _ between last index next line _ _ result closings habove hfeed hindex ih =>
    rw [Loom.collections_feed hfeed, succeeded_append]
    rcases between.closings_cases line result with hnone | ⟨block, hphase, hline, hone⟩
    · rw [hnone]
      simpa using ih
    · rw [hone]
      cases result with
      | error failure => simpa using ih
      | ok _ =>
        -- blocks are closed in order, so this one starts below all that were gathered
        have hblock : block.kind.Runnable :=
          runnable_feeding habove.feeding (fun _ h => by cases h) block hphase
        refine ih.close hblock fun b hb => ?_
        obtain ⟨closing, hclosing, rfl⟩ := List.mem_map.1 hb
        exact ((ordered_of_rising habove).inside block hphase).2 closing
          (List.mem_filter.1 hclosing).1

/-- Every fragment began with a block that was closed. -/
theorem Rising.exists_closing (h : Rising options .start first closings next last) {family : Family}
    {id : CollectionId} {fragment : Fragment}
    (hget : last.collections.get? family id = some fragment) :
    ∃ closing ∈ closings, closing.block.startLine = fragment.startLine := by
  rw [h.holds family id] at hget
  cases hblocks : gathered family id (succeeded closings) with
  | nil =>
    rw [hblocks] at hget
    cases hget
  | cons block blocks =>
    have hmem : block ∈ succeeded closings :=
      gathered_subset family id _ (hblocks ▸ List.mem_cons_self)
    obtain ⟨closing, hclosing, rfl⟩ := List.mem_map.1 hmem
    rw [hblocks] at hget
    obtain rfl := Option.some.inj hget
    exact ⟨closing, (List.mem_filter.1 hclosing).1, rfl⟩

/-- What some closed blocks have added to a fragment. -/
def added (family : Family) (id : CollectionId) (closings : List Closing) : Text :=
  bodies ((succeeded closings).filter fun b => b.kind = .collect family id)

theorem added_append (family : Family) (id : CollectionId) (closings more : List Closing) :
    added family id (closings ++ more) = added family id closings ++ added family id more := by
  rw [added, succeeded_append, List.filter_append, bodies, List.flatMap_append]
  rfl

/-- A fragment stays until it is run, with what is added to it behind. -/
theorem Rising.get?_later (habove : Rising options .start first closings index loom)
    (hbelow : Rising options loom index more next last) {family : Family} {id : CollectionId}
    {fragment : Fragment} (hget : loom.collections.get? family id = some fragment)
    (hran : ∀ closing ∈ more, ¬ closing.Ran family id) :
    last.collections.get? family id
      = some ⟨fragment.body ++ added family id more, fragment.startLine⟩ := by
  induction hbelow with
  | nil hindex => simpa [added, bodies] using hget
  | @snoc _ _ between last index' next line _ _ result more hmore hfeed hnext ih =>
    rw [List.forall_mem_append] at hran
    have hbetween := ih hran.1
    rw [Loom.collections_feed hfeed, added_append, ← List.append_assoc]
    rcases between.closings_cases line result with hnone | ⟨block, hphase, hline, hone⟩
    · rw [hnone]
      simpa [added, bodies] using hbetween
    · rw [hone] at hran ⊢
      cases result with
      | error failure => simpa [added, bodies] using hbetween
      | ok _ =>
        -- the fragment began with a block that was closed, so above the one that is open
        have hclosed := habove.trans hmore
        have hstart : fragment.startLine < block.startLine := by
          obtain ⟨closing, hclosing, hsame⟩ := hclosed.exists_closing hbetween
          have hbefore := ((ordered_of_rising hclosed).inside block hphase).2 closing hclosing
          rwa [hsame] at hbefore
        have hkind : block.kind ≠ .execute family id := fun hkind =>
          hran.2 ⟨block, .ok ()⟩ (List.mem_singleton.2 rfl) ⟨hkind, rfl⟩
        exact Collections.get?_close hbetween (Nat.ne_of_lt hstart) hkind

end

/-! ## All looms that lines lead to -/

/-- A block that can be run is not refused for asking for the public collection. -/
theorem Loom.workOf_ne_wildcard {block : Block} (hblock : block.kind.Runnable) (options : Options)
    (collections : Collections) (family : Family) (number : Nat) :
    workOf options collections block ≠ .error (.wildcardExecution family number) := by
  intro h
  cases hkind : block.kind with
  | plain =>
    simp only [workOf, hkind] at h
    split at h <;> cases h
  | skip | singleFile => simp [workOf, hkind] at h
  | collect family' id => simp [workOf, hkind] at h
  | execute family' id =>
    simp only [workOf, hkind, collectionJob_eq, isPublic_eq_false hblock hkind] at h
    cases hget : collections.get? family' id <;> simp [hget, Except.map] at h

/-- An opening line whose first directive is to run the public collection. -/
theorem Fence.classify_of_wildcard {language line info rest : Text} {highlight : Option Text}
    {words : List Text} {family : Family} (hopens : Opens language line info)
    (hcut : Cut info rest highlight) (hwords : Text.Separated rest words)
    (hfirst : First words ['*'] (.execute family)) (index : Nat) :
    classify language line index = .error (.wildcardExecution family (index + 1)) := by
  rw [classify, info?_eq_some_iff.2 hopens]
  simp only [cutHighlight_eq_iff.2 hcut, Text.words_eq_iff.2 hwords,
    kindOf_eq_iff.2 (.wildcard hfirst)]
  rfl

/-- No block is open that would run the public collection, and none can be opened. -/
structure RunsNoPublic (options : Options) (loom : Loom) : Prop where
  /-- The block that is open does not ask for the public collection to be run, -/
  runnable : ∀ block, loom.phase = .inside block → block.kind.Runnable
  /-- and it is not refused for that when it is closed. -/
  closing : ∀ block, loom.phase = .inside block → ∀ index line family number shown,
    loom.advance options index line ≠ .refused (.wildcardExecution family number) shown
  /-- A directive that asks for it is refused on its line. No block is opened, so that no line below is
  read as code; and nobody is asked. -/
  opening : loom.phase = .outside → ∀ line info rest highlight words family,
    Fence.Opens options.language (Text.chomp line) info → Fence.Cut info rest highlight →
    Text.Separated rest words → Fence.First words ['*'] (.execute family) →
    ∀ (σ : Type) (runner : Runner σ) (index : Nat) (session : Session σ),
      loom.feed options runner index line session
        = (.error (.wildcardExecution family (index + 1)), loom, session)

/-- What was collected is kept, if all lines so far were above the next one. -/
structure KeepsCollected (options : Options) (closings : List Closing) (next : Nat) (loom : Loom) :
    Prop where
  /-- All fragments began above the next line, -/
  above : ∀ family id fragment, loom.collections.get? family id = some fragment →
    fragment.startLine < next
  /-- and above the block that is open, -/
  inside : ∀ block, loom.phase = .inside block → block.startLine < next ∧
    ∀ family id fragment, loom.collections.get? family id = some fragment →
      fragment.startLine < block.startLine
  /-- which therefore goes behind what was collected, and does not take its place. -/
  recorded : ∀ block, loom.phase = .inside block →
    ∀ family id fragment, loom.collections.get? family id = some fragment →
      (loom.collections.record family id block).get? family id
        = some ⟨fragment.body ++ block.body, fragment.startLine⟩
  /-- The collections hold what was gathered from the blocks that did not fail. -/
  holds : loom.collections.Holds (succeeded closings)
  /-- Whatever lines follow below, a fragment stays until a block has run it and was answered. -/
  kept : ∀ more later last, Rising options loom next more later last →
    ∀ family id fragment, loom.collections.get? family id = some fragment →
      (∀ closing ∈ more, ¬ closing.Ran family id) →
      last.collections.get? family id
        = some ⟨fragment.body ++ added family id more, fragment.startLine⟩

theorem runsNoPublic_of_feeding {options : Options} {closings : List Closing} {loom : Loom}
    (h : Feeding options .start closings loom) : RunsNoPublic options loom := by
  have hrunnable := runnable_feeding h fun _ h => by cases h
  constructor
  case runnable => exact hrunnable
  case closing =>
    intro block hphase index line family number shown hadvance
    cases hline : closes line with
    | false =>
      have hopen : Fence.isClose (Text.chomp line) = false := hline
      simp [Loom.advance, hphase, hopen] at hadvance
    | true =>
      have hclose : Fence.isClose (Text.chomp line) = true := hline
      simp only [Loom.advance, hphase, hclose, if_true, Loom.readClosing] at hadvance
      split at hadvance
      · next failure hwork =>
        obtain ⟨rfl, -⟩ := Loom.Step.refused.inj hadvance
        exact Loom.workOf_ne_wildcard (hrunnable block hphase) _ _ _ _ hwork
      all_goals cases hadvance
  case opening =>
    intro hphase line info rest highlight words family hopens hcut hwords hfirst σ runner index
    exact Loom.feed_refused options runner hphase
      (Fence.classify_of_wildcard hopens hcut hwords hfirst index)

theorem keepsCollected_of_rising {options : Options} {closings : List Closing} {first next : Nat}
    {loom : Loom} (h : Rising options .start first closings next loom) :
    KeepsCollected options closings next loom := by
  have hordered := ordered_of_rising h
  have hinside : ∀ block, loom.phase = .inside block →
      ∀ family id fragment, loom.collections.get? family id = some fragment →
        fragment.startLine < block.startLine := by
    intro block hphase family id fragment hget
    obtain ⟨closing, hclosing, hsame⟩ := h.exists_closing hget
    rw [← hsame]
    exact (hordered.inside block hphase).2 closing hclosing
  constructor
  case above =>
    intro family id fragment hget
    obtain ⟨closing, hclosing, hsame⟩ := h.exists_closing hget
    rw [← hsame]
    exact hordered.closed closing hclosing
  case inside =>
    intro block hphase
    exact ⟨(hordered.inside block hphase).1, hinside block hphase⟩
  case recorded =>
    intro block hphase family id fragment hget
    have hstart := Nat.ne_of_lt (hinside block hphase family id fragment hget)
    simp [Collections.get?_record, hget, Collections.merged, hstart]
  case holds => exact h.holds
  case kept =>
    intro more later last hbelow family id fragment hget hran
    exact h.get?_later hbelow hget hran

/-- Whatever lines led to a loom, with any indices and failures, it has no block open that would run the
public collection, and refuses to open one. If the indices grew, as they do on a page, no text that was
collected is lost, but by a block that has run it. -/
theorem reachable_keepsCollected (options : Options) :
    (∀ closings loom, Feeding options .start closings loom → RunsNoPublic options loom) ∧
      (∀ closings first next loom, Rising options .start first closings next loom →
        Feeding options .start closings loom ∧ KeepsCollected options closings next loom) ∧
      ∀ (σ : Type) (runner : Runner σ) (lines : List Text) (session : Session σ), ∃ closings,
        Rising options .start 0 closings lines.length
          (Loom.start.feedAll options runner 0 lines session).2.1 := by
  refine ⟨fun closings loom h => runsNoPublic_of_feeding h,
    fun closings first next loom h => ⟨h.feeding, keepsCollected_of_rising h⟩, ?_⟩
  intro σ runner lines session
  have h := rising_feedAll options runner .start 0 lines session
  rwa [Nat.zero_add] at h

/-- A block that is collected below a program that failed. -/
def laterLines : List Text :=
  ["```zig -collect_1\n", "c\n", "```\n"].map String.toList

/-- The program of a collection fails. What was collected for it is still there, a block below adds to
it, and no block can run the public collection. -/
theorem reachable_keepsCollected_failed :
    let runner := Runner.cached Toolchain.scripted .memory
    let above := Loom.start.feedOn .standard runner 0 (failingLines ++ ["```\n".toList])
      failingSession
    let below := above.2.1.feedOn .standard runner 9 laterLines above.2.2
    let asking := "```zig \x7b.hl\x7d -execute_*\n".toList
    (above.1.map fun closing => (closing.block.kind, closing.result.isOk))
        = [(.collect .run .everyone, true), (.collect .run (.number 1), true),
          (.execute .run (.number 1), false)] ∧
      above.2.1.collections.get? .run (.number 1) = some ⟨"a\n".toList, 3⟩ ∧
      below.2.1.collections.get? .run (.number 1) = some ⟨"a\nc\n".toList, 3⟩ ∧
      below.2.1.feed .standard runner 12 asking below.2.2
        = (.error (.wildcardExecution .run 13), below.2.1, below.2.2) := by
  intro runner above below asking
  obtain ⟨hpublic, hcollected, -⟩ := reachable_keepsCollected .standard
  have habove : Rising .standard .start 0 above.1 9 above.2.1 :=
    rising_feedOn .standard runner .start 0 _ failingSession
  have hbelow : Rising .standard above.2.1 9 below.1 12 below.2.1 :=
    rising_feedOn .standard runner above.2.1 9 laterLines above.2.2
  have hget : above.2.1.collections.get? .run (.number 1) = some ⟨"a\n".toList, 3⟩ := by
    decide +kernel
  have hkinds : below.1.map (fun closing => closing.block.kind) = [.collect .run (.number 1)] := by
    decide +kernel
  have hran : ∀ closing ∈ below.1, ¬ closing.Ran .run (.number 1) := by
    intro closing hclosing hran
    have hkind := List.mem_map_of_mem (f := fun closing => closing.block.kind) hclosing
    rw [hkinds, List.mem_singleton, hran.1] at hkind
    cases hkind
  have hadded : added .run (.number 1) below.1 = "c\n".toList := by decide +kernel
  have hkept := (hcollected _ _ _ _ habove).2.kept _ _ _ hbelow _ _ _ hget hran
  rw [hadded] at hkept
  have hlater := (hcollected _ _ _ _ (habove.trans hbelow)).1
  refine ⟨by decide +kernel, hget, hkept, ?_⟩
  -- the asking line is read as the grammar of opening lines has it, not by running the loom
  have hopens : Fence.Opens Options.standard.language (Text.chomp asking)
      " \x7b.hl\x7d -execute_*".toList := by
    refine ⟨rfl, fun c hc => ?_⟩
    obtain rfl : ' ' = c := Option.some.inj hc
    decide +kernel
  have hwords : Text.words (Fence.cutHighlight " \x7b.hl\x7d -execute_*".toList).1
      = ["-execute_*".toList] := by
    decide +kernel
  have hfirst : Fence.First ["-execute_*".toList] ['*'] (.execute .run) :=
    ⟨[], _, [], rfl, by simp [Fence.Undirected], .execute (.inl rfl)⟩
  exact (hpublic _ _ hlater).opening (by decide +kernel) asking _ _ _ _ .run hopens
    (Fence.cut_cutHighlight _) (Text.words_eq_iff.1 hwords) hfirst _ runner 12 below.2.2

end Weave

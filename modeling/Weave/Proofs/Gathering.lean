import Mathlib.Data.List.DropRight
import Weave.Proofs.Outline

/-!
# Weave.Proofs.Gathering — what a collection holds, said by the blocks above

The collections of a loom change with every block. What they hold can be said without following
the changes: under an id stand the bodies of the blocks that were collected for it since it was last
run (`gathered`). `Collections.Holds` ties the two together.

* `holds_record`, `holds_consume`, `holds_concat`: what one more block does to `Holds`.
* `resolve_of_holds`, `publicText_of_holds`: what a block that runs a collection is given.
-/

namespace Weave

/-! ## Blocks of a collection -/

/-- The bodies of some blocks, one after the other. -/
def bodies (blocks : List Block) : Text :=
  blocks.flatMap Block.body

/-- The blocks that were collected for the public collection of a family. -/
def publicBlocks (family : Family) (closed : List Block) : List Block :=
  closed.filter fun b => b.kind = .collect family .everyone

/-- The blocks below the last one that ran a collection; all of them if none did. -/
def sinceRun (family : Family) (id : CollectionId) (closed : List Block) : List Block :=
  closed.rtakeWhile fun b => b.kind ≠ .execute family id

/-- The blocks that were collected under an id since it was last run. -/
def gathered (family : Family) (id : CollectionId) (closed : List Block) : List Block :=
  (sinceRun family id closed).filter fun b => b.kind = .collect family id

@[simp] theorem bodies_concat (blocks : List Block) (b : Block) :
    bodies (blocks ++ [b]) = bodies blocks ++ b.body := by
  simp [bodies]

@[simp] theorem gathered_nil (family : Family) (id : CollectionId) :
    gathered family id [] = [] := rfl

/-- One more block: it runs the collection, it is collected, or it is neither here nor there. -/
theorem gathered_concat (family : Family) (id : CollectionId) (closed : List Block) (b : Block) :
    gathered family id (closed ++ [b])
      = if b.kind = .execute family id then []
        else if b.kind = .collect family id then gathered family id closed ++ [b]
        else gathered family id closed := by
  unfold gathered sinceRun
  rw [List.rtakeWhile_concat]
  by_cases hrun : b.kind = .execute family id
  · simp [hrun]
  · by_cases hcollect : b.kind = .collect family id
    · simp [hcollect]
    · simp [hrun, hcollect]

theorem gathered_subset (family : Family) (id : CollectionId) (closed : List Block) :
    gathered family id closed ⊆ closed := by
  intro b hb
  have hmem : b ∈ sinceRun family id closed := (List.mem_filter.1 hb).1
  exact (List.rtakeWhile_suffix _ closed).subset hmem

/-- Nothing runs the public collection, so that all of it is there. -/
theorem gathered_everyone {closed : List Block} (hrun : ∀ b ∈ closed, b.kind.Runnable)
    (family : Family) : gathered family .everyone closed = publicBlocks family closed := by
  have hall : sinceRun family .everyone closed = closed := by
    refine List.rtakeWhile_eq_self_iff.2 fun b hb => ?_
    simpa using hrun b hb family
  rw [gathered, hall, publicBlocks]

/-- Whether a block has to do with a collection: it is part of it, is public in its family, or
runs it. -/
def Concerns (family : Family) (id : CollectionId) (b : Block) : Bool :=
  b.kind = .collect family .everyone || b.kind = .collect family id
    || b.kind = .execute family id

/-- The other blocks, of another family or another id or without a directive, do not count. -/
theorem gathered_concerns (family : Family) (id : CollectionId) (closed : List Block) :
    gathered family id (closed.filter (Concerns family id)) = gathered family id closed := by
  induction closed using List.reverseRecOn with
  | nil => rfl
  | append_singleton closed b ih =>
    by_cases hb : Concerns family id b = true
    · rw [List.filter_append, List.filter_cons_of_pos hb, List.filter_nil, gathered_concat,
        gathered_concat, ih]
    · have hrun : b.kind ≠ .execute family id := by
        intro h
        simp [Concerns, h] at hb
      have hcollect : b.kind ≠ .collect family id := by
        intro h
        simp [Concerns, h] at hb
      rw [List.filter_append, List.filter_cons_of_neg hb, List.filter_nil, List.append_nil,
        gathered_concat, if_neg hrun, if_neg hcollect, ih]

theorem publicBlocks_concerns (family : Family) (id : CollectionId) (closed : List Block) :
    publicBlocks family (closed.filter (Concerns family id)) = publicBlocks family closed := by
  unfold publicBlocks
  rw [List.filter_filter]
  apply List.filter_congr
  intro b _
  by_cases hb : b.kind = .collect family .everyone
  · simp [hb, Concerns]
  · simp [hb]

/-- Pages whose blocks differ only in what does not count gather the same. -/
theorem gathered_congr {family : Family} {id : CollectionId} {closed others : List Block}
    (h : others.filter (Concerns family id) = closed.filter (Concerns family id)) :
    publicBlocks family others = publicBlocks family closed
      ∧ gathered family id others = gathered family id closed := by
  constructor
  · rw [← publicBlocks_concerns family id others, h, publicBlocks_concerns]
  · rw [← gathered_concerns family id others, h, gathered_concerns]

/-! ## Fragments -/

/-- The fragment that some blocks make up: their bodies, from the opening line of the first. -/
def Fragment.of : List Block → Option Fragment
  | [] => none
  | block :: blocks => some ⟨bodies (block :: blocks), block.startLine⟩

theorem Fragment.body_of (blocks : List Block) :
    ((Fragment.of blocks).map Fragment.body).getD [] = bodies blocks := by
  cases blocks <;> rfl

/-- A block that starts on another line is added at the end. -/
theorem Fragment.of_concat {blocks : List Block} {block : Block}
    (hline : ∀ b ∈ blocks, b.startLine ≠ block.startLine) :
    Fragment.of (blocks ++ [block]) = some (Collections.merged (Fragment.of blocks) block) := by
  cases blocks with
  | nil => simp [Fragment.of, Collections.merged, bodies]
  | cons b bs =>
    have hne : b.startLine ≠ block.startLine := hline b (by simp)
    simp [Fragment.of, Collections.merged, hne, bodies]

/-! ## Collections after some blocks -/

namespace Collections

/-- The collections hold what the blocks so far, in order, say that they do. -/
def Holds (c : Collections) (closed : List Block) : Prop :=
  ∀ family id, c.get? family id = Fragment.of (gathered family id closed)

theorem holds_empty : empty.Holds [] := by
  intro family id
  rfl

/-- A block that neither runs a collection nor is collected. -/
theorem holds_concat {c : Collections} {closed : List Block} {block : Block} (hc : c.Holds closed)
    (hrun : ∀ family id, block.kind ≠ .execute family id)
    (hcollect : ∀ family id, block.kind ≠ .collect family id) : c.Holds (closed ++ [block]) := by
  intro family id
  rw [gathered_concat, if_neg (hrun family id), if_neg (hcollect family id)]
  exact hc family id

/-- A block that is collected. No block above it starts on its line, so nothing is replaced. -/
theorem holds_record {c : Collections} {closed : List Block} {block : Block} {family : Family}
    {id : CollectionId} (hc : c.Holds closed) (hkind : block.kind = .collect family id)
    (habove : ∀ b ∈ closed, b.startLine < block.startLine) :
    (c.record family id block).Holds (closed ++ [block]) := by
  intro f i
  have hrun : block.kind ≠ .execute f i := by simp [hkind]
  rw [get?_record, gathered_concat, if_neg hrun]
  by_cases hkey : (f, i) = (family, id)
  · obtain ⟨rfl, rfl⟩ := Prod.mk.inj hkey
    have hline : ∀ b ∈ gathered f i closed, b.startLine ≠ block.startLine := fun b hb =>
      Nat.ne_of_lt (habove b (gathered_subset f i closed hb))
    rw [if_pos rfl, if_pos hkind, Fragment.of_concat hline, hc f i]
  · have hother : block.kind ≠ .collect f i := by
      intro h
      rw [hkind, BlockKind.collect.injEq] at h
      exact hkey (by rw [h.1, h.2])
    rw [if_neg hkey, if_neg hother]
    exact hc f i

/-- A block that runs a numbered collection. -/
theorem holds_consume {c : Collections} {closed : List Block} {block : Block} {family : Family}
    {id : CollectionId} (hc : c.Holds closed) (hkind : block.kind = .execute family id)
    (hid : id.isPublic = false) : (c.consume family id).Holds (closed ++ [block]) := by
  intro f i
  rw [get?_consume, gathered_concat]
  by_cases hkey : (f, i) = (family, id)
  · obtain ⟨rfl, rfl⟩ := Prod.mk.inj hkey
    rw [if_pos ⟨rfl, hid⟩, if_pos hkind]
    rfl
  · have hother : block.kind ≠ .execute f i := by
      intro h
      rw [hkind, BlockKind.execute.injEq] at h
      exact hkey (by rw [h.1, h.2])
    have hcollect : block.kind ≠ .collect f i := by simp [hkind]
    rw [if_neg (fun h => hkey h.1), if_neg hother, if_neg hcollect]
    exact hc f i

theorem resolve_of_holds {c : Collections} {closed : List Block} (hc : c.Holds closed)
    (family : Family) (id : CollectionId) (line : Nat) :
    c.resolve family id line
      = if gathered family id closed = [] then .error (.unresolvedCollection family id line)
        else .ok (bodies (gathered family id closed)) := by
  unfold resolve
  rw [hc family id]
  cases gathered family id closed with
  | nil => rfl
  | cons b bs => rfl

theorem publicText_of_holds {c : Collections} {closed : List Block} (hc : c.Holds closed)
    (hrun : ∀ b ∈ closed, b.kind.Runnable) (family : Family) :
    c.publicText family = bodies (publicBlocks family closed) := by
  unfold publicText
  rw [hc family .everyone, Fragment.body_of, gathered_everyone hrun]

end Collections

end Weave

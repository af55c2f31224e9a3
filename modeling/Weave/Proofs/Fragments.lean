import Mathlib.Data.Set.Card
import Weave.Proofs.Gathering

/-!
# Weave.Proofs.Fragments — what a fragment holds after any changes

Blocks are added to collections and collections are taken away, in any order and any number of times,
and a block may be added again that starts on the line where its fragment began. What a fragment holds
then can be read off the changes that name it, without following it through the others.

* `Change`, `applyAll`: any changes, one after the other.
* `recorded`: the blocks that were added under an id since its fragment was last taken away.
* `Fragment.Joins`: how a fragment comes from such blocks. One more block keeps it (`Joins.merged`), so
  it holds after any changes (`told_applyAll`).
* `get?_applyAll_naming`: changes under other ids do not matter.
* `applyAll_exact`: all that can be asked of the collections.
-/

namespace Weave

/-! ## Fragments and the blocks that were added -/

namespace Fragment

/-- How a fragment comes from blocks that are added one after the other. It begins on the line of the
first block. The last block that starts on that line has replaced what was there before it, and those
below it are added at the end. -/
def Joins (fragment : Fragment) (blocks : List Block) : Prop :=
  ∃ earlier replay later, blocks = earlier ++ replay :: later ∧
    blocks.head?.map Block.startLine = some fragment.startLine ∧
    replay.startLine = fragment.startLine ∧
    (∀ b ∈ later, b.startLine ≠ fragment.startLine) ∧
    fragment.body = bodies (replay :: later)

/-- What is found under an id to which some blocks were added. -/
def Told (found : Option Fragment) (blocks : List Block) : Prop :=
  found.elim (blocks = []) (·.Joins blocks)

/-- The first block begins a fragment. -/
theorem joins_singleton (block : Block) : (Collections.merged none block).Joins [block] :=
  ⟨[], block, [], rfl, rfl, rfl, by simp, by simp [Collections.merged, bodies]⟩

/-- One more block replaces what is there, if it starts where the fragment began, and else is added
at the end. -/
theorem Joins.merged {fragment : Fragment} {blocks : List Block} (h : fragment.Joins blocks)
    (block : Block) : (Collections.merged (some fragment) block).Joins (blocks ++ [block]) := by
  obtain ⟨earlier, replay, later, rfl, hfirst, hreplay, hlater, hbody⟩ := h
  have hhead : ((earlier ++ replay :: later) ++ [block]).head?.map Block.startLine
      = some fragment.startLine := by
    rw [List.head?_append_of_ne_nil _ (by simp)]
    exact hfirst
  by_cases hline : fragment.startLine = block.startLine
  · have hmerged : Collections.merged (some fragment) block = ⟨block.body, block.startLine⟩ :=
      if_pos hline
    rw [hmerged]
    exact ⟨earlier ++ replay :: later, block, [], rfl, hhead.trans (congrArg some hline), rfl, by simp,
      by simp [bodies]⟩
  · have hmerged : Collections.merged (some fragment) block
        = { fragment with body := fragment.body ++ block.body } :=
      if_neg hline
    rw [hmerged]
    refine ⟨earlier, replay, later ++ [block], by simp, hhead, hreplay, ?_, ?_⟩
    · rw [List.forall_mem_append]
      exact ⟨hlater, by simpa using Ne.symm hline⟩
    · rw [← List.cons_append, bodies_concat, ← hbody]

/-- Whatever is found, one more block keeps it told. -/
theorem Told.merged {found : Option Fragment} {blocks : List Block} (h : Told found blocks)
    (block : Block) : Told (some (Collections.merged found block)) (blocks ++ [block]) := by
  cases found with
  | none =>
    obtain rfl : blocks = [] := h
    exact joins_singleton block
  | some fragment => exact Joins.merged h block

end Fragment

namespace Collections

/-! ## Changes -/

/-- A change of collections. -/
inductive Change where
  /-- A block is added to the text under an id. -/
  | record (family : Family) (id : CollectionId) (block : Block)
  /-- The text under an id is taken away, unless it is public. -/
  | consume (family : Family) (id : CollectionId)
deriving Repr, DecidableEq, Inhabited

namespace Change

/-- The family and the id that a change names. -/
def key : Change → Family × CollectionId
  | record family id _ => (family, id)
  | consume family id => (family, id)

/-- The block that a change adds, if it adds one. -/
def block? : Change → Option Block
  | record _ _ block => some block
  | consume _ _ => none

/-- Whether a change takes a fragment away. The public one is never consumed. -/
def takes : Change → Bool
  | record _ _ _ => false
  | consume _ id => !id.isPublic

end Change

/-- The collections after a change. -/
def apply (c : Collections) : Change → Collections
  | .record family id block => c.record family id block
  | .consume family id => c.consume family id

/-- The collections after some changes, the first one first. -/
def applyAll (c : Collections) (changes : List Change) : Collections :=
  changes.foldl apply c

/-- The changes that name an id. -/
def naming (family : Family) (id : CollectionId) (changes : List Change) : List Change :=
  changes.filter fun change => change.key = (family, id)

/-- The blocks that were added under an id since its fragment was last taken away, in order. -/
def recorded (family : Family) (id : CollectionId) (changes : List Change) : List Block :=
  ((naming family id changes).rtakeWhile fun change => !change.takes).filterMap Change.block?

theorem applyAll_concat (c : Collections) (changes : List Change) (change : Change) :
    c.applyAll (changes ++ [change]) = (c.applyAll changes).apply change :=
  List.foldl_concat ..

section

variable (family : Family) (id : CollectionId)

theorem naming_concat (changes : List Change) (change : Change) :
    naming family id (changes ++ [change])
      = if change.key = (family, id) then naming family id changes ++ [change]
        else naming family id changes := by
  unfold naming
  rw [List.filter_append]
  by_cases hkey : change.key = (family, id) <;> simp [hkey]

/-- One more change: it names another id, it takes the fragment away, or it may add a block. -/
theorem recorded_concat (changes : List Change) (change : Change) :
    recorded family id (changes ++ [change])
      = if change.key = (family, id) then
          if change.takes then [] else recorded family id changes ++ change.block?.toList
        else recorded family id changes := by
  unfold recorded
  rw [naming_concat]
  split
  · rw [List.rtakeWhile_concat]
    cases change.takes with
    | true => rfl
    | false =>
      rw [if_pos (by simp), if_neg (by simp), List.filterMap_append]
      cases change <;> rfl
  · rfl

variable {family id}

/-- A change leaves what stands under the ids that it does not name. -/
theorem get?_apply_of_ne {change : Change} (h : change.key ≠ (family, id)) (c : Collections) :
    (c.apply change).get? family id = c.get? family id := by
  cases change with
  | record f i block => rw [apply, get?_record, if_neg fun hsame => h hsame.symm]
  | consume f i => rw [apply, get?_consume, if_neg fun hsame => h hsame.1.symm]

/-- What it makes of the id that it names depends on nothing but what stands there. -/
theorem get?_apply_congr {c c' : Collections} (h : c'.get? family id = c.get? family id)
    (change : Change) :
    (c'.apply change).get? family id = (c.apply change).get? family id := by
  by_cases hkey : change.key = (family, id)
  · cases change with
    | record f i block =>
      obtain ⟨rfl, rfl⟩ := Prod.mk.inj hkey
      rw [apply, apply, get?_record, get?_record, h]
    | consume f i => rw [apply, apply, get?_consume, get?_consume, h]
  · rw [get?_apply_of_ne hkey, get?_apply_of_ne hkey, h]

/-! ## Any changes -/

/-- A fragment is told by the blocks that were added to it since it was last taken away. -/
theorem told_applyAll (changes : List Change) :
    Fragment.Told ((empty.applyAll changes).get? family id) (recorded family id changes) := by
  induction changes using List.reverseRecOn with
  | nil => rfl
  | append_singleton changes change ih =>
    rw [applyAll_concat, recorded_concat]
    by_cases hkey : change.key = (family, id)
    · rw [if_pos hkey]
      cases change with
      | record f i block =>
        obtain ⟨rfl, rfl⟩ := Prod.mk.inj hkey
        rw [apply, get?_record, if_pos rfl]
        exact ih.merged block
      | consume f i =>
        obtain ⟨rfl, rfl⟩ := Prod.mk.inj hkey
        rw [apply, get?_consume]
        cases hpublic : i.isPublic with
        | true =>
          -- the public one stays
          simpa [Change.takes, Change.block?, hpublic] using ih
        | false => simp [Change.takes, hpublic, Fragment.Told]
    · rw [if_neg hkey, get?_apply_of_ne hkey]
      exact ih

/-- Only the changes that name an id matter to it. -/
theorem get?_applyAll_naming (changes : List Change) :
    (empty.applyAll (naming family id changes)).get? family id
      = (empty.applyAll changes).get? family id := by
  induction changes using List.reverseRecOn with
  | nil => rfl
  | append_singleton changes change ih =>
    rw [naming_concat, applyAll_concat]
    split
    · rw [applyAll_concat]
      exact get?_apply_congr ih change
    · next hkey => rw [get?_apply_of_ne hkey, ih]

end

/-! ## Sizes -/

theorem mem_keys_iff {c : Collections} {family : Family} {id : CollectionId} :
    (family, id) ∈ c.fragments.keys ↔ (c.get? family id).isSome = true := by
  have hnone : c.get? family id = none ↔ (family, id) ∉ c.fragments.keys := Store.get?_eq_none_iff
  rw [Option.isSome_iff_ne_none, ne_eq, hnone, not_not]

/-- The size is the number of ids under which something stands. -/
theorem size_eq_ncard (c : Collections) (family : Family) :
    c.size family = {id | (c.get? family id).isSome = true}.ncard := by
  let kept := c.fragments.keys.filter (·.1 = family)
  have hnodup : (kept.map Prod.snd).Nodup := by
    refine List.Nodup.map_on ?_ (c.fragments.nodup.filter _)
    intro key hkey other hother hid
    have hfamily : key.1 = family := by simpa using (List.mem_filter.1 hkey).2
    have hfamily' : other.1 = family := by simpa using (List.mem_filter.1 hother).2
    exact Prod.ext (hfamily.trans hfamily'.symm) hid
  have hset : {id | (c.get? family id).isSome = true} = ((kept.map Prod.snd).toFinset : Set _) := by
    ext id
    rw [Set.mem_ofPred_eq, ← mem_keys_iff]
    simp [kept]
  rw [hset, Set.ncard_coe_finset, List.toFinset_card_of_nodup hnodup, List.length_map, size,
    List.countP_eq_length_filter]

/-- Nothing is collected if both families are empty. -/
theorem isEmpty_iff (c : Collections) :
    c.isEmpty = true ↔ c.size .run = 0 ∧ c.size .test = 0 := by
  simp only [isEmpty, List.isEmpty_iff, size, List.countP_eq_zero, decide_eq_true_eq]
  constructor
  · intro hkeys
    simp [hkeys]
  · rintro ⟨hrun, htest⟩
    refine List.eq_nil_iff_forall_not_mem.2 fun key hkey => ?_
    cases hfamily : key.1 with
    | run => exact hrun key hkey hfamily
    | test => exact htest key hkey hfamily

/-! ## All that can be asked -/

/-- What collections hold after any changes, under any id. If no block was added since the fragment
was last taken away, nothing is found; else the fragment begins where the first such block starts, and
has the bodies of the blocks from the last one on that starts there. A numbered fragment can be taken,
as it is, and is gone then; the public one stays. The sizes are the numbers of ids under which something
is found. Changes that name another id, or another family, make no difference. -/
theorem applyAll_exact (changes : List Change) (family : Family) (id : CollectionId) :
    let c := empty.applyAll changes
    let blocks := recorded family id changes
    (blocks = [] →
      c.get? family id = none ∧
      (∀ line, c.resolve family id line = .error (.unresolvedCollection family id line)) ∧
      (id = .everyone → c.publicText family = [])) ∧
    (∀ first more, blocks = first :: more → ∃ earlier replay later,
      blocks = earlier ++ replay :: later ∧ replay.startLine = first.startLine ∧
      (∀ b ∈ later, b.startLine ≠ first.startLine) ∧
      c.get? family id = some ⟨bodies (replay :: later), first.startLine⟩ ∧
      (∀ line, c.resolve family id line = .ok (bodies (replay :: later))) ∧
      (id = .everyone → c.publicText family = bodies (replay :: later))) ∧
    (id.isPublic = false →
      c.consumed family id = c.get? family id ∧ (c.consume family id).get? family id = none) ∧
    (c.consumed family .everyone = none ∧ c.consume family .everyone = c) ∧
    c.size family = {id | (c.get? family id).isSome = true}.ncard ∧
    (c.isEmpty = true ↔ c.size .run = 0 ∧ c.size .test = 0) ∧
    ∀ others, naming family id others = naming family id changes →
      (empty.applyAll others).get? family id = c.get? family id := by
  intro c blocks
  have htold : Fragment.Told (c.get? family id) blocks := told_applyAll changes
  refine ⟨?_, ?_, ?_, ⟨rfl, rfl⟩, c.size_eq_ncard family, c.isEmpty_iff, ?_⟩
  · intro hblocks
    have hnone : c.get? family id = none := by
      cases hget : c.get? family id with
      | none => rfl
      | some fragment =>
        obtain ⟨earlier, replay, later, hsplit, -⟩ : fragment.Joins blocks := by rwa [hget] at htold
        simp [hblocks] at hsplit
    refine ⟨hnone, fun line => by rw [resolve, hnone], ?_⟩
    rintro rfl
    rw [publicText, hnone]
    rfl
  -- what was recorded since the collection was consumed tells the fragment
  · intro first more hblocks
    cases hget : c.get? family id with
    | none =>
      have hempty : blocks = [] := by rwa [hget] at htold
      rw [hblocks] at hempty
      cases hempty
    | some fragment =>
      obtain ⟨earlier, replay, later, hsplit, hfirst, hreplay, hlater, hbody⟩ :
          fragment.Joins blocks := by rwa [hget] at htold
      have hline : first.startLine = fragment.startLine := by
        rw [hblocks] at hfirst
        exact Option.some.inj hfirst
      refine ⟨earlier, replay, later, hsplit, hreplay.trans hline.symm, ?_, ?_, ?_, ?_⟩
      · rwa [hline]
      · rw [hline, ← hbody]
      · intro line
        rw [resolve, hget, ← hbody]
      · rintro rfl
        rw [publicText, hget, ← hbody]
        rfl
  · intro hid
    refine ⟨by rw [consumed, if_neg (by simp [hid])], ?_⟩
    rw [get?_consume, if_pos ⟨rfl, hid⟩]
  · intro others hsame
    rw [← get?_applyAll_naming others, hsame, get?_applyAll_naming]

/-- A block that starts where the fragment began replaces all that came since, and what comes behind it
is added to it. -/
example :
    let block (body : Text) (line : Nat) : Block := ⟨.collect .run (.number 1), body, line, none⟩
    (empty.applyAll
      [.record .run (.number 1) (block ['a'] 2), .record .run (.number 1) (block ['b'] 5),
        .record .run (.number 1) (block ['c'] 2), .record .test (.number 1) (block ['d'] 8),
        .consume .run .everyone, .record .run (.number 1) (block ['e'] 9)]).get? .run (.number 1)
      = some ⟨['c', 'e'], 2⟩ := by
  decide

end Collections

end Weave

import Weave.Failure
import Weave.Store

/-!
# Weave.Collections — what a page has collected so far

Collecting blocks put their bodies together under the id that they name, until a block runs the
collection. The public collection of a family is never consumed.
-/

namespace Weave

/-- The text that was collected under one id. -/
structure Fragment where
  body : Text
  /-- Index of the opening line of the block that the fragment began with. -/
  startLine : Nat
deriving Repr, DecidableEq, Inhabited

/-- The fragments of a page, each under its family and id. -/
structure Collections where
  fragments : Store (Family × CollectionId) Fragment
deriving Inhabited

namespace Collections

def empty : Collections :=
  ⟨.empty⟩

def get? (c : Collections) (family : Family) (id : CollectionId) : Option Fragment :=
  c.fragments.get? (family, id)

/-- The fragment after a block was added. A block that starts on the line with which the fragment
began is the same block seen again: it replaces the fragment. -/
def merged (old : Option Fragment) (block : Block) : Fragment :=
  match old with
  | some fragment =>
    if fragment.startLine = block.startLine then ⟨block.body, block.startLine⟩
    else { fragment with body := fragment.body ++ block.body }
  | none => ⟨block.body, block.startLine⟩

/-- The collections with one more block under an id. -/
def record (c : Collections) (family : Family) (id : CollectionId) (block : Block) : Collections :=
  ⟨c.fragments.insert (family, id) (merged (c.get? family id) block)⟩

/-- The text under an id, which the block on a line asks for. -/
def resolve (c : Collections) (family : Family) (id : CollectionId) (line : Nat) :
    Except Failure Text :=
  match c.get? family id with
  | some fragment => .ok fragment.body
  | none => .error (.unresolvedCollection family id line)

/-- The text of the public collection of a family, which may be empty. -/
def publicText (c : Collections) (family : Family) : Text :=
  ((c.get? family .everyone).map Fragment.body).getD []

/-- The collections after one of them was run: a numbered one is gone. -/
def consume (c : Collections) (family : Family) (id : CollectionId) : Collections :=
  if id.isPublic then c else ⟨c.fragments.erase (family, id)⟩

/-- The fragment that `consume` removes. -/
def consumed (c : Collections) (family : Family) (id : CollectionId) : Option Fragment :=
  if id.isPublic then none else c.get? family id

def size (c : Collections) (family : Family) : Nat :=
  c.fragments.keys.countP (·.1 = family)

def isEmpty (c : Collections) : Bool :=
  c.fragments.keys.isEmpty

/-! ## The view -/

@[simp] theorem get?_empty (family : Family) (id : CollectionId) :
    empty.get? family id = none := rfl

theorem get?_record (c : Collections) (family f : Family) (id i : CollectionId) (block : Block) :
    (c.record family id block).get? f i
      = if (f, i) = (family, id) then some (merged (c.get? family id) block)
        else c.get? f i :=
  Store.get?_insert ..

theorem get?_consume (c : Collections) (family f : Family) (id i : CollectionId) :
    (c.consume family id).get? f i
      = if (f, i) = (family, id) ∧ id.isPublic = false then none else c.get? f i := by
  unfold consume
  split
  · next h => simp [h]
  · next h =>
    simp only [Bool.not_eq_true] at h
    simp only [h, and_true]
    exact Store.get?_erase ..

end Collections

end Weave

/-!
# Weave.Diff.Script — what turns one list into another

An edit script is a sequence of runs that are kept, removed or added. `Script.shortest` finds one
with the fewest removals and additions: common beginnings and ends are kept, and what lies between
them is divided where a search from the front meets a search from the back.
-/

namespace Weave.Diff

/-- A run of an edit script. -/
inductive Edit (α : Type) where
  | kept (items : List α)
  | removed (items : List α)
  | added (items : List α)
deriving Repr, DecidableEq, Inhabited

abbrev Script (α : Type) : Type :=
  List (Edit α)

variable {α : Type}

namespace Script

def source : Script α → List α
  | [] => []
  | .kept items :: rest => items ++ source rest
  | .removed items :: rest => items ++ source rest
  | .added _ :: rest => source rest

def target : Script α → List α
  | [] => []
  | .kept items :: rest => items ++ target rest
  | .removed _ :: rest => target rest
  | .added items :: rest => items ++ target rest

end Script

/-! ## Common beginnings and ends -/

/-- The number of items that two lists have in common at their beginnings. -/
def commonPrefix [DecidableEq α] : List α → List α → Nat
  | x :: xs, y :: ys => if x = y then commonPrefix xs ys + 1 else 0
  | _, _ => 0

/-- The number of items that two lists have in common at their ends. -/
def commonSuffix [DecidableEq α] (xs ys : List α) : Nat :=
  commonPrefix xs.reverse ys.reverse

/-- The number of equal items in two arrays from two positions on. -/
def runLength [DecidableEq α] (xs ys : Array α) : Nat → Nat → Nat → Nat
  | 0, _, _ => 0
  | fuel + 1, i, j =>
    match xs[i]?, ys[j]? with
    | some x, some y => if x = y then runLength xs ys fuel (i + 1) (j + 1) + 1 else 0
    | _, _ => 0

/-! ## Searching for the middle -/

/-- How far a search has come on each diagonal, which is the difference of the positions in the two
lists. Diagonals are counted from `-offset`. -/
structure Frontier where
  reach : Array Nat
  offset : Nat

namespace Frontier

def start (size : Nat) : Frontier :=
  ⟨Array.replicate (2 * size + 3) 0, size + 1⟩

/-- How far the search has come on a diagonal. -/
def get (f : Frontier) (diagonal : Int) : Nat :=
  f.reach.getD (diagonal + f.offset).toNat 0

def set (f : Frontier) (diagonal : Int) (reach : Nat) : Frontier :=
  { f with reach := f.reach.setIfInBounds (diagonal + f.offset).toNat reach }

/-- Where the next run on a diagonal begins, after `d` removals and additions. -/
def next (f : Frontier) (d diagonal : Int) : Nat :=
  if diagonal = -d ∨ (diagonal ≠ d ∧ f.get (diagonal - 1) < f.get (diagonal + 1)) then
    f.get (diagonal + 1)
  else f.get (diagonal - 1) + 1

end Frontier

/-- The diagonals that are reached with `d` removals and additions, the highest first. -/
def diagonals (d : Nat) : List Int :=
  (List.range (d + 1)).map fun (i : Nat) => (d : Int) - 2 * (i : Int)

/-- One round of a search: every diagonal is followed as far as items are equal. Ends with an error
as soon as `meets` is satisfied by a diagonal and its new reach; the error says where the run on it
begins and ends. -/
def advance [DecidableEq α] (xs ys : Array α) (d : Nat) (f : Frontier)
    (meets : Int → Nat → Bool) : Except (Int × Nat × Nat) Frontier :=
  (diagonals d).foldlM (fun f k =>
    let first := f.next d k
    let last := first + runLength xs ys xs.size first (first - k).toNat
    if meets k last then .error (k, first, last) else .ok (f.set k last)) f

/-- The rounds of the search from both sides: the positions in the two lists where they meet. -/
def searchMiddle [DecidableEq α] (xs ys back₁ back₂ : Array α) :
    Nat → Nat → Frontier → Frontier → Option (Nat × Nat)
  | 0, _, _, _ => none
  | fuel + 1, d, forward, backward =>
    let delta : Int := (xs.size : Int) - ys.size
    -- searches meet in a round from the front just if the sizes differ by an odd number
    let isOdd := delta % 2 ≠ 0
    let meets := fun (limit : Int) (other : Frontier) (k : Int) (last : Nat) =>
      (k - delta).natAbs ≤ limit && xs.size ≤ last + other.get (-(k - delta))
    match advance xs ys d forward (fun k last => isOdd && meets (d - 1) backward k last) with
    | .error (k, first, _) => some (first, (first - k).toNat)
    | .ok forward =>
      match advance back₁ back₂ d backward (fun k last => !isOdd && meets d forward k last) with
      | .error (k, _, last) => some (xs.size - last, ((ys.size : Int) - (last - k)).toNat)
      | .ok backward => searchMiddle xs ys back₁ back₂ fuel (d + 1) forward backward

/-- Positions in two lists at which a shortest script can be divided. -/
def middle? [DecidableEq α] (xs ys : List α) : Option (Nat × Nat) :=
  let size := (xs.length + ys.length + 1) / 2 + 1
  searchMiddle xs.toArray ys.toArray xs.reverse.toArray ys.reverse.toArray size 0
    (.start size) (.start size)

/-! ## Dividing -/

/-- A run, unless it is empty. -/
def keptRun (items : List α) : Script α :=
  if items.isEmpty then [] else [.kept items]

/-- A script that turns one list into another. Where fuel ends all that is left is replaced. -/
def divide [DecidableEq α] : Nat → List α → List α → Script α
  | 0, xs, ys => [.removed xs, .added ys]
  | fuel + 1, xs, ys =>
    let start := commonPrefix xs ys
    let before := xs.take start
    let xs := xs.drop start
    let ys := ys.drop start
    let stop := commonSuffix xs ys
    let after := xs.drop (xs.length - stop)
    let xs := xs.take (xs.length - stop)
    let ys := ys.take (ys.length - stop)
    let inner :=
      match xs, ys with
      | [], [] => []
      | xs, [] => [Edit.removed xs]
      | [], ys => [Edit.added ys]
      | xs, ys =>
        -- both sides have items left, and these differ at both ends
        match middle? xs ys with
        | some (i, j) => divide fuel (xs.take i) (ys.take j) ++ divide fuel (xs.drop i) (ys.drop j)
        | none => [.removed xs, .added ys]
    keptRun before ++ inner ++ keptRun after

/-- A shortest script that turns one list into another. -/
def Script.shortest [DecidableEq α] (xs ys : List α) : Script α :=
  divide (xs.length + ys.length + 1) xs ys

end Weave.Diff

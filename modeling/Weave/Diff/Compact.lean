import Weave.Diff.Script

/-!
# Weave.Diff.Compact — moving edits together

Additions are moved up and then down along equal items, so that those which meet become one. Within
a run of edits the removals come first: `Script.replacements` puts them so.
-/

namespace Weave.Diff

variable {α : Type}

/-- A script with a place in it: the edits before it, the nearest first, the edit there, and the
edits after it. -/
structure Place (α : Type) where
  before : Script α
  edit : Edit α
  after : Script α

/-- A script with kept items put before the others. -/
def pushKept (items : List α) : Script α → Script α
  | .kept more :: rest => .kept (items ++ more) :: rest
  | rest => .kept items :: rest

/-- Edits in reverse order with kept items put after the others. -/
def pushKeptBack (items : List α) : Script α → Script α
  | .kept more :: rest => .kept (more ++ items) :: rest
  | rest => .kept items :: rest

/-- Moves an edit up as far as it goes. -/
def moveUp [DecidableEq α] : Nat → Place α → Place α
  | 0, place => place
  | fuel + 1, place =>
    match place.before with
    | [] => place
    | previous :: before =>
      match place.edit, previous with
      | _, .kept [] => moveUp fuel { place with before := before }
      | .added items, .kept equal =>
        let n := commonSuffix equal items
        if n = 0 then place
        else
          -- what the run and the addition both end with comes after the addition
          let rest := equal.take (equal.length - n)
          let moved := equal.drop (equal.length - n)
          moveUp fuel
            ⟨if rest.isEmpty then before else .kept rest :: before,
              .added (moved ++ items.take (items.length - n)), pushKept moved place.after⟩
      | .removed _, .kept _ => place
      | .added items, .added more => moveUp fuel ⟨before, .added (more ++ items), place.after⟩
      | .removed items, .removed more => moveUp fuel ⟨before, .removed (more ++ items), place.after⟩
      | edit, previous => moveUp fuel ⟨before, edit, previous :: place.after⟩

/-- Moves an edit down as far as it goes. -/
def moveDown [DecidableEq α] : Nat → Place α → Place α
  | 0, place => place
  | fuel + 1, place =>
    match place.after with
    | [] => place
    | next :: after =>
      match place.edit, next with
      | _, .kept [] => moveDown fuel { place with after := after }
      | .added items, .kept equal =>
        let n := commonPrefix equal items
        if n = 0 then place
        else
          -- what the addition and the run both begin with comes before the addition
          let rest := equal.drop n
          let moved := equal.take n
          moveDown fuel
            ⟨pushKeptBack moved place.before, .added (items.drop n ++ moved),
              if rest.isEmpty then after else .kept rest :: after⟩
      | .removed _, .kept _ => place
      | .added items, .added more => moveDown fuel ⟨place.before, .added (items ++ more), after⟩
      | .removed items, .removed more =>
        moveDown fuel ⟨place.before, .removed (items ++ more), after⟩
      | edit, next => moveDown fuel ⟨next :: place.before, edit, after⟩

/-- Moves every edit of a kind up and down, from the first to the last. -/
def moveAll [DecidableEq α] (moves : Edit α → Bool) (size : Nat) :
    Nat → Script α → Script α → Script α
  | 0, before, after => before.reverse ++ after
  | _ + 1, before, [] => before.reverse
  | fuel + 1, before, edit :: after =>
    if moves edit then
      let place := moveDown size (moveUp size ⟨before, edit, after⟩)
      moveAll moves size fuel (place.edit :: place.before) place.after
    else moveAll moves size fuel (edit :: before) after

def Edit.isRemoved : Edit α → Bool
  | .removed _ => true
  | _ => false

def Edit.isAdded : Edit α → Bool
  | .added _ => true
  | _ => false

/-- A number that the steps of moving edits do not exceed. -/
def Script.moveFuel (script : Script α) : Nat :=
  2 * (script.length + script.source.length + script.target.length) + 2

/-- The script with edits moved together. -/
def Script.compact [DecidableEq α] (script : Script α) : Script α :=
  let fuel := script.moveFuel
  -- removals first, so that additions find them together
  let script := moveAll Edit.isRemoved fuel fuel [] script
  moveAll Edit.isAdded fuel fuel [] script

/-- The script in which the removals between two kept runs come before the additions. -/
def Script.replacements : List α → List α → Script α → Script α
  | removed, added, [] => [.removed removed, .added added]
  | removed, added, .kept items :: rest =>
    .removed removed :: .added added :: .kept items :: replacements [] [] rest
  | removed, added, .removed items :: rest => replacements (removed ++ items) added rest
  | removed, added, .added items :: rest => replacements removed (added ++ items) rest

end Weave.Diff

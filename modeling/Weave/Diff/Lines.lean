import Weave.Diff.Compact
import Weave.Text.Basic

/-!
# Weave.Diff.Lines — how two texts differ

The lines of two texts as changes. A line ends with a line feed, a carriage return, or both; the
terminator belongs to the line, so that lines can differ in it.
-/

namespace Weave.Diff

inductive ChangeKind where
  | kept
  | removed
  | added
deriving Repr, DecidableEq, Inhabited

/-- A line and what happens to it. -/
structure Change where
  kind : ChangeKind
  line : Text
deriving Repr, DecidableEq, Inhabited

def terminatedLines : Text → List Text
  | [] => []
  | '\r' :: '\n' :: rest => ['\r', '\n'] :: terminatedLines rest
  | c :: rest =>
    if c = '\n' || c = '\r' then [c] :: terminatedLines rest
    else
      match terminatedLines rest with
      | [] => [[c]]
      | line :: lines => (c :: line) :: lines

def Edit.changes : Edit Text → List Change
  | .kept lines => lines.map (⟨.kept, ·⟩)
  | .removed lines => lines.map (⟨.removed, ·⟩)
  | .added lines => lines.map (⟨.added, ·⟩)

/-- The changes that turn one text into another. -/
def changes (old new : Text) : List Change :=
  let script := (Script.shortest (terminatedLines old) (terminatedLines new)).compact
  (script.replacements [] []).flatMap Edit.changes

/-- A line with a line feed at its end if it has no terminator. -/
def Change.text (change : Change) : Text :=
  match change.line.getLast? with
  | some '\n' => change.line
  | some '\r' => change.line
  | _ => change.line ++ ['\n']

end Weave.Diff

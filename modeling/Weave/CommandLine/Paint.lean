import Weave.Diff.Lines

/-!
# Weave.CommandLine.Paint — colours on a terminal

Texts in colour, and the differences between two texts as they are shown: two blanks, a sign, and
the line. Removed and added lines are coloured.
-/

namespace Weave.CommandLine

inductive Colour where
  | red
  | green
  | yellow
deriving Repr, DecidableEq, Inhabited

def Colour.number : Colour → Nat
  | .red => 31
  | .green => 32
  | .yellow => 33

def escape (number : Nat) : Text :=
  "\x1b[".toList ++ Text.ofNat number ++ ['m']

/-- A text between the sequence for a colour and the sequence `ending`. -/
def colouredUntil (ending : Nat) (colour : Colour) (s : Text) : Text :=
  escape colour.number ++ s ++ escape ending

/-- A text in a colour, if colours are wanted. What follows it has the usual colour again. -/
def paint (wanted : Bool) (colour : Colour) (s : Text) : Text :=
  if wanted then colouredUntil 39 colour s else s

/-- A text in a colour, if colours are wanted. After it nothing is left of any style. -/
def paintReset (wanted : Bool) (colour : Colour) (s : Text) : Text :=
  if wanted then colouredUntil 0 colour s else s

def showChange (colours : Bool) (change : Diff.Change) : Text :=
  match change.kind with
  | .kept => ' ' :: ' ' :: ' ' :: change.text
  | .removed => ' ' :: ' ' :: paint colours .red ('-' :: change.text)
  | .added => ' ' :: ' ' :: paint colours .green ('+' :: change.text)

/-- How the differences between two texts are shown. -/
def showChanges (colours : Bool) (old new : Text) : Text :=
  (Diff.changes old new).flatMap (showChange colours)

end Weave.CommandLine

import Weave.CollectionId

/-!
# Weave.Block — managed code blocks

A managed block is a fenced block of the page's language. Its kind says what becomes of its
body.
-/

namespace Weave

/-- What a managed block asks for. -/
inductive BlockKind where
  /-- Wrapped in the entry point and run. -/
  | plain
  /-- Shown only. -/
  | skip
  /-- Run as it stands. -/
  | singleFile
  /-- Added to a collection. -/
  | collect (family : Family) (id : CollectionId)
  /-- Run after the text of a collection. -/
  | execute (family : Family) (id : CollectionId)
deriving Repr, DecidableEq, Inhabited

/-- A managed block while it is read, and once it is closed. -/
structure Block where
  kind : BlockKind
  /-- The lines of the block, each ended by a line feed. -/
  body : Text
  /-- Index of the opening line, counted from zero. -/
  startLine : Nat
  /-- The annotation in braces of the opening line, shown again on the page. -/
  highlight : Option Text
deriving Repr, DecidableEq, Inhabited

namespace Block

/-- A block of which only the opening line was read. -/
def opened (kind : BlockKind) (startLine : Nat) (highlight : Option Text) : Block :=
  ⟨kind, [], startLine, highlight⟩

/-- The block with one more line, given without its terminator. -/
def addLine (block : Block) (line : Text) : Block :=
  { block with body := block.body ++ Text.endLine line }

/-- The number of the opening line, counted from one. -/
def lineNumber (block : Block) : Nat :=
  block.startLine + 1

end Block

end Weave

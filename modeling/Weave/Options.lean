import Weave.EntryPoint

/-!
# Weave.Options — how the blocks of a page are recognised and shown
-/

namespace Weave

/-- How the blocks of a page are recognised and shown. -/
structure Options where
  /-- The tag of managed blocks, in the source and on the page. -/
  language : Text
  /-- The tag of the blocks that show results. -/
  resultTag : Text
  /-- The program around plain blocks. -/
  entryPoint : EntryPoint
deriving Repr, DecidableEq

namespace Options

/-- What holds where nothing is configured. -/
def standard : Options :=
  ⟨"zig".toList, "ansi".toList, EntryPoint.standard⟩

instance : Inhabited Options := ⟨standard⟩

end Options

end Weave

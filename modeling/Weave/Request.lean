import Weave.Text.Basic

/-!
# Weave.Request — what the toolchain is asked to run

A request is a complete source text together with the mode in which the toolchain handles it.
-/

namespace Weave

/-- How the toolchain handles a source text. -/
inductive Mode where
  | run
  | test
deriving Repr, DecidableEq, Inhabited

def Mode.name : Mode → Text
  | .run => "run".toList
  | .test => "test".toList

/-- A complete source text and the mode to handle it in. -/
structure Request where
  mode : Mode
  body : Text
deriving Repr, DecidableEq, Inhabited

end Weave

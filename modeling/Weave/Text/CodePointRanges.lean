/-!
# Weave.Text.CodePointRanges — sets of characters given by ranges of code points
-/

namespace Weave.Text

/-- A set of characters as the ranges of code points it consists of, both ends included. -/
abbrev CodePointRanges := List (Nat × Nat)

/-- Whether a character lies in one of the ranges. -/
def CodePointRanges.contains (ranges : CodePointRanges) (c : Char) : Bool :=
  ranges.any fun r => r.1 ≤ c.toNat && c.toNat ≤ r.2

end Weave.Text

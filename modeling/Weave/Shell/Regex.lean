import Weave.Shell.Pattern

/-!
# Weave.Shell.Regex — regular expressions

Trees of regular expressions and what they match. A match begins as far to the left as possible;
among those the longest one counts. All ends that a match can have are listed, with those first that
greedy repetitions lead to, so that the groups of the longest match are the expected ones.
-/

namespace Weave.Shell

/-! ## Trees -/

inductive SetItem where
  | range (first last : Char)
  | named (name : Text)
deriving Repr, DecidableEq, Inhabited

/-- A condition on the characters around a place in a text. -/
inductive Edge where
  | lineStart
  | lineEnd
  /-- A word begins or ends here. -/
  | boundary
  /-- No word begins or ends here. -/
  | noBoundary
  | wordStart
  | wordEnd
  | notAfterWord
  | notBeforeWord
deriving Repr, DecidableEq, Inhabited

inductive Regex where
  | empty
  | any
  | letter (c : Char)
  | set (negated : Bool) (items : List SetItem)
  | edge (kind : Edge)
  | seq (first second : Regex)
  | either (first second : Regex)
  | times (r : Regex) (least : Nat) (most : Option Nat)
  | group (number : Nat) (r : Regex)
  /-- The text that a group matched once more. -/
  | again (number : Nat)
deriving Repr, Inhabited

/-! ## Places -/

/-- A place in a text, with what groups matched on the way there. -/
structure Spot where
  index : Nat
  /-- The character in front of the place. -/
  before : Option Char
  rest : Text
  /-- What groups matched, the latest first. -/
  groups : List (Nat × Text)
deriving Repr, DecidableEq, Inhabited

namespace Spot

def advance (spot : Spot) (n : Nat) : Spot :=
  match n with
  | 0 => spot
  | n + 1 =>
    { spot with
      index := spot.index + n + 1
      before := spot.rest[n]?
      rest := spot.rest.drop (n + 1) }

def group? (spot : Spot) (number : Nat) : Option Text :=
  (spot.groups.find? (·.1 = number)).map Prod.snd

end Spot

def isWordChar (c : Char) : Bool :=
  c.isAlphanum || c = '_'

/-- Whether a condition holds at a place. -/
def Edge.holds (kind : Edge) (spot : Spot) : Bool :=
  let after := spot.before.any isWordChar
  let ahead := spot.rest.head?.any isWordChar
  match kind with
  | .lineStart => spot.before.isNone
  | .lineEnd => spot.rest.isEmpty
  | .boundary => after != ahead
  | .noBoundary => after == ahead
  | .wordStart => !after && ahead
  | .wordEnd => after && !ahead
  | .notAfterWord => !after
  | .notBeforeWord => !ahead

/-- Whether a character belongs to a part of a set. -/
def SetItem.holds (c : Char) : SetItem → Bool
  | .range first last => first ≤ c && c ≤ last
  | .named name => isInClass name c

/-- The characters that count as the same character. -/
def variants (folded : Bool) (c : Char) : List Char :=
  if folded then [c, c.toLower, c.toUpper] else [c]

/-! ## Matching -/

namespace Regex

/-- The places that repetitions lead to, where each round has to move on unless it is one of those
that are needed. Fuel is the number of rounds. -/
def rounds (round : Spot → List Spot) : Nat → Nat → Option Nat → Spot → List Spot
  | 0, _, _, spot => [spot]
  | fuel + 1, least, most, spot =>
    let further := if most = some 0 then []
      else (round spot).flatMap fun next =>
        if next.index = spot.index && least = 0 then []
        else rounds round fuel (least - 1) (most.map (· - 1)) next
    if least = 0 then further ++ [spot] else further

/-- The places where a match that begins at a place can end, the preferred ones first. When letters
are folded, small and capital ones are the same. -/
def ends (folded : Bool) : Regex → Spot → List Spot
  | .empty, spot => [spot]
  | .any, spot => if spot.rest.isEmpty then [] else [spot.advance 1]
  | .letter c, spot =>
    if spot.rest.head?.any fun x => (variants folded x).contains c then [spot.advance 1] else []
  | .set negated items, spot =>
    let listed := fun c => (variants folded c).any fun x => items.any fun item => item.holds x
    if spot.rest.head?.any fun c => listed c != negated then [spot.advance 1] else []
  | .edge kind, spot => if kind.holds spot then [spot] else []
  | .seq first second, spot => (ends folded first spot).flatMap (ends folded second)
  | .either first second, spot => ends folded first spot ++ ends folded second spot
  | .times r least most, spot =>
    rounds (ends folded r) (spot.rest.length + least + 1) least most spot
  | .group number r, spot =>
    (ends folded r spot).map fun next =>
      { next with groups := (number, spot.rest.take (next.index - spot.index)) :: next.groups }
  | .again number, spot =>
    match spot.group? number with
    | some s =>
      let form := fun t : Text => if folded then t.map Char.toLower else t
      if form (spot.rest.take s.length) = form s then [spot.advance s.length] else []
    | none => []

/-- The first of the places that lie furthest to the right. -/
def furthest? (spots : List Spot) : Option Spot :=
  spots.foldl (fun best spot =>
    match best with
    | some b => if b.index < spot.index then some spot else best
    | none => some spot) none

/-- Where a match begins and where it ends, with its groups. -/
structure Found where
  start : Nat
  stop : Nat
  groups : List (Nat × Text)
deriving Repr, DecidableEq, Inhabited

/-- The first match at a place or after it. -/
def find? (folded : Bool) (r : Regex) (index : Nat) (before : Option Char) (rest : Text) :
    Option Found :=
  match furthest? (r.ends folded ⟨index, before, rest, []⟩) with
  | some stop => some ⟨index, stop.index, stop.groups⟩
  | none =>
    match rest with
    | [] => none
    | c :: rest => find? folded r (index + 1) (some c) rest

/-- Expressions one after another. -/
def all (parts : List Regex) : Regex :=
  parts.foldr .seq .empty

/-- The expression for a text as it is. -/
def ofText (s : Text) : Regex :=
  all (s.map .letter)

end Regex

end Weave.Shell

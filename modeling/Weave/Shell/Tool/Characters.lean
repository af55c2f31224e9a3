import Weave.Shell.Format
import Weave.Shell.Pattern
import Weave.Shell.Tool.Basic

/-!
# Weave.Shell.Tool.Characters — characters in the place of others

A set of characters is written as the characters in order, with ranges, classes, escapes and
repetitions. The characters of one set are replaced by those of another, deleted, or printed only
once where they are repeated.
-/

namespace Weave.Shell.Characters

/-! ## Sets -/

/-- A character of a written set, which may have been escaped. -/
abbrev Mark : Type :=
  Char × Bool

/-- A written set with its escapes replaced. The number of characters is fuel enough. -/
def unescape : Nat → Text → List Mark
  | 0, _ => []
  | _ + 1, [] => []
  | fuel + 1, '\\' :: rest =>
    match readOctal? rest, rest with
    | some (c, rest), _ => (c, true) :: unescape fuel rest
    | none, c :: rest => ((printedEscape? c).getD c, true) :: unescape fuel rest
    | none, [] => [('\\', true)]
  | fuel + 1, c :: rest => (c, false) :: unescape fuel rest

inductive Item where
  | one (c : Char)
  | range (first last : Char)
  | named (name : Text)
  /-- A character so many times, or as often as there is room. -/
  | repeated (c : Char) (count : Nat)
deriving Repr, DecidableEq, Inhabited

/-- The name of a class and what follows it, after the opening brackets. -/
def splitClass? (closing : Char) (marks : List Mark) : Option (Text × List Mark) :=
  let name := marks.takeWhile (· ≠ (closing, false))
  match marks.drop name.length with
  | (_, _) :: (']', false) :: rest => some (name.map Prod.fst, rest)
  | _ => none

/-- The number of repetitions and what follows it, after the star. -/
def splitCount? (marks : List Mark) : Option (Nat × List Mark) :=
  let digits := (marks.takeWhile fun m => m.1.isDigit).map Prod.fst
  match marks.drop digits.length with
  | (']', false) :: rest =>
    some (if digits.head? = some '0' then (Text.digitsValue? 8 digits).getD 0
      else Text.toNat digits, rest)
  | _ => none

/-- The elements of a written set. The number of characters is fuel enough. -/
def items : Nat → List Mark → List Item
  | 0, _ => []
  | _ + 1, [] => []
  | fuel + 1, ('[', false) :: (':', false) :: rest =>
    match splitClass? ':' rest with
    | some (name, rest) => .named name :: items fuel rest
    | none => .one '[' :: items fuel ((':', false) :: rest)
  | fuel + 1, ('[', false) :: ('=', false) :: rest =>
    match splitClass? '=' rest with
    | some (name, rest) => .one (name.headD '=') :: items fuel rest
    | none => .one '[' :: items fuel (('=', false) :: rest)
  | fuel + 1, ('[', false) :: (c, escaped) :: ('*', false) :: rest =>
    match splitCount? rest with
    | some (n, rest) => .repeated c n :: items fuel rest
    | none => .one '[' :: items fuel ((c, escaped) :: ('*', false) :: rest)
  | fuel + 1, (a, _) :: ('-', false) :: (b, _) :: rest => .range a b :: items fuel rest
  | fuel + 1, (a, _) :: rest => .one a :: items fuel rest

def bytes : Text :=
  (List.range 256).map Char.ofNat

/-- The characters of an element, where repetitions have so much room. -/
def Item.chars (room : Nat) : Item → Text
  | .one c => [c]
  | .range a b => (List.range (b.toNat + 1 - a.toNat)).map fun i => Char.ofNat (a.toNat + i)
  | .named name => bytes.filter (isInClass name)
  | .repeated c n => List.replicate (if n = 0 then room else n) c

def expand (room : Nat) (set : List Item) : Text :=
  let fixed := (set.filter fun i => match i with
    | .repeated _ 0 => false
    | _ => true).flatMap (Item.chars 0)
  set.flatMap (Item.chars (room - fixed.length))

def wrong? (set : List Item) : Option Text :=
  set.findSome? fun i =>
    match i with
    | .range a b =>
      if b < a then some ("range-endpoints of \x27".toList ++ [a, '-', b]
        ++ "\x27 are in reverse collating sequence order".toList) else none
    | .named name =>
      if classNames.contains name then none
      else some ("invalid character class \x27".toList ++ name ++ ['\''])
    | _ => none

/-- The elements of a set as it is written. -/
def setOf (s : Text) : List Item :=
  items (s.length + 1) (unescape (s.length + 1) s)

/-! ## Replacing -/

/-- The character that replaces another one: the last pair counts, and the last character of the
second set stands for all that are missing. -/
def replacement (first second : Text) (c : Char) : Char :=
  let padded := second
    ++ List.replicate (first.length - second.length) (second.getLast?.getD c)
  match (first.zip padded).reverse.find? (·.1 = c) with
  | some (_, d) => d
  | none => c

/-- A text in which characters of a set stand only once where they are repeated. -/
def squeeze (set : Text) : Text → Text
  | a :: b :: rest =>
    if a = b && set.contains a then squeeze set (b :: rest) else a :: squeeze set (b :: rest)
  | s => s

def spec : OptionSpec where
  flags := "cCdst"
  valued := ""
  long := [("complement", 'c'), ("delete", 'd'), ("squeeze-repeats", 's'), ("truncate-set1", 't')]
  strict := true

/-- What is wrong about the number of sets. -/
def usage? (given : Given) : Option Text :=
  let last := (given.operands.getLast?).getD []
  let after := " operand after \x27".toList ++ last ++ ['\'']
  match given.operands.length, given.has 'd', given.has 's' with
  | 0, _, _ => some "missing operand".toList
  | 1, true, true => some ("missing".toList ++ after
      ++ "\nTwo strings must be given when both deleting and squeezing repeats.".toList)
  | 1, false, false => some ("missing".toList ++ after
      ++ "\nTwo strings must be given when translating.".toList)
  | 1, _, _ => none
  | 2, true, false => some ("extra operand \x27".toList ++ last
      ++ "\x27\nOnly one string may be given when deleting without squeezing repeats.".toList)
  | 2, _, _ => none
  | _, _, _ => some ("extra operand \x27".toList ++ (given.operands.getD 2 []) ++ ['\''])

/-- The characters of the first set, or all others in order. -/
def firstSet (given : Given) (set : List Item) : Text :=
  let chars := expand 0 set
  if given.has 'c' || given.has 'C' then bytes.filter (!chars.contains ·) else chars

/-- The text after characters were deleted or replaced and repeated ones left out. -/
def transform (given : Given) (sets : List (List Item)) (s : Text) : Text :=
  let first := firstSet given (sets.headD [])
  match given.has 'd', sets.tail with
  | true, [] => s.filter (!first.contains ·)
  | true, second :: _ => squeeze (expand 0 second) (s.filter (!first.contains ·))
  | false, [] => squeeze first s
  | false, second :: _ =>
    let second := expand first.length second
    let table := bytes.map (replacement first second)
    let replaced := s.map fun c => table.getD c.toNat c
    if given.has 's' then squeeze second replaced else replaced

/-- Replaces or deletes characters of the input. -/
def tr : Tool :=
  spec.tool "tr" 1 fun given => do
    let sets := given.operands.map setOf
    match usage? given, sets.findSome? wrong? with
    | some message, _ => Work.misused "tr".toList message 1
    | none, some message => Work.complain "tr".toList message 1
    | none, none =>
      if !given.has 'd' && sets[1]? = some [] then
        Work.complain "tr".toList
          "when not truncating set1, string2 must be non-empty".toList 1
      else Work.print (transform given sets (← Work.takeInput))

end Weave.Shell.Characters

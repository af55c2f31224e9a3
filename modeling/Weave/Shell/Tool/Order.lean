import Weave.Shell.Tool.Basic

/-!
# Weave.Shell.Tool.Order — lines in order

Sorting lines, and telling lines apart that follow one another. Lines are compared by keys, and
where these are equal as a whole.
-/

namespace Weave.Shell.Order

/-! ## Comparing -/

/-- How two texts are compared. -/
structure Manner where
  numeric : Bool
  /-- Numbers may end in a letter for their size. -/
  sized : Bool
  /-- Runs of digits are compared as numbers. -/
  versions : Bool
  foldCase : Bool
  dictionary : Bool
  printable : Bool
  skipBlanks : Bool
  reversed : Bool
deriving Repr, DecidableEq, Inhabited

/-- The manner that letters ask for. -/
def Manner.of (letters : Text) : Manner where
  numeric := letters.contains 'n' || letters.contains 'g'
  sized := letters.contains 'h'
  versions := letters.contains 'V'
  foldCase := letters.contains 'f'
  dictionary := letters.contains 'd'
  printable := letters.contains 'i'
  skipBlanks := letters.contains 'b'
  reversed := letters.contains 'r'

/-- Whether a character is a blank between fields. -/
def isBlank (c : Char) : Bool :=
  c = ' ' || c = '\t' || c = '\n'

/-- A decimal number at the start of a text: its sign, the digits of the whole part, the digits of
the fraction, and the rest. -/
def splitDecimal (s : Text) : Bool × Text × Text × Text :=
  let s := s.dropWhile isBlank
  let negative := s.head? = some '-'
  let s := if negative then s.tail else s
  let whole := s.takeWhile Char.isDigit
  match s.drop whole.length with
  | '.' :: rest =>
    let places := rest.takeWhile Char.isDigit
    (negative, whole, places, rest.drop places.length)
  | rest => (negative, whole, [], rest)

/-- Compares two numbers. What is no number counts as zero. -/
def compareNumbers (s t : Text) : Ordering :=
  let (sign, whole, places, _) := splitDecimal s
  let (sign', whole', places', _) := splitDecimal t
  let width := max places.length places'.length
  let value := fun (sign : Bool) (whole places : Text) =>
    let n : Int := Text.toNat (whole ++ places ++ List.replicate (width - places.length) '0')
    if sign then -n else n
  compare (value sign whole places) (value sign' whole' places')

/-- Compares two numbers that may end in a letter for their size. -/
def compareSizes (s t : Text) : Ordering :=
  let rank := fun s : Text =>
    let (sign, whole, places, rest) := splitDecimal s
    let zero := (whole ++ places).all (· = '0')
    let power : Nat := match rest.head? with
      | some 'K' => 1
      | some 'k' => 1
      | some 'M' => 2
      | some 'G' => 3
      | some 'T' => 4
      | some 'P' => 5
      | _ => 0
    if zero then (0 : Int) else if sign then Int.negOfNat (power + 1) else power + 1
  (compare (rank s) (rank t)).then (compareNumbers s t)

/-- Compares two texts byte by byte. -/
def compareTexts : Text → Text → Ordering
  | [], [] => .eq
  | [], _ :: _ => .lt
  | _ :: _, [] => .gt
  | a :: s, b :: t => (compare a.toNat b.toNat).then (compareTexts s t)

/-- The runs of digits of a text and what is between them. -/
def runs (s : Text) : List Text :=
  s.splitBy fun a b => a.isDigit = b.isDigit

/-- Compares two texts whose runs of digits are numbers. Letters come before other characters. -/
def compareVersions (s t : Text) : Ordering :=
  go (runs s) (runs t)
where
  /-- The place of a character. -/
  rank (c : Char) : Nat :=
    if c.isAlpha then c.toNat else if c = '~' then 0 else c.toNat + 256
  /-- Compares two runs without digits. -/
  plain : Text → Text → Ordering
    | [], [] => .eq
    | [], _ :: _ => .lt
    | _ :: _, [] => .gt
    | a :: s, b :: t => (compare (rank a) (rank b)).then (plain s t)
  /-- Compares the runs of two texts. -/
  go : List Text → List Text → Ordering
    | [], [] => .eq
    | [], _ :: _ => .lt
    | _ :: _, [] => .gt
    | a :: s, b :: t =>
      -- numbers are compared only with numbers
      let both := (a.head?.any Char.isDigit) && (b.head?.any Char.isDigit)
      (if both then compare (Text.toNat a) (Text.toNat b) else plain a b).then (go s t)

def Manner.compare (m : Manner) (s t : Text) : Ordering :=
  let tidy := fun s : Text =>
    let s := if m.skipBlanks then s.dropWhile isBlank else s
    let s := if m.dictionary then s.filter fun c => c.isAlphanum || isBlank c else s
    let s := if m.printable then s.filter fun c => ' ' ≤ c && c ≤ '~' else s
    if m.foldCase then s.map Char.toUpper else s
  let result :=
    if m.numeric then compareNumbers s t
    else if m.sized then compareSizes s t
    else if m.versions then compareVersions (tidy s) (tidy t)
    else compareTexts (tidy s) (tidy t)
  if m.reversed then result.swap else result

/-! ## Keys -/

/-- A place in a line: after so many fields and so many characters. -/
structure Place where
  fields : Nat
  chars : Nat
deriving Repr, DecidableEq, Inhabited

/-- A part of a line by which it is compared. -/
structure Key where
  start : Place
  stop : Option Place
  /-- The letters of its own manner. -/
  letters : Text
deriving Repr, DecidableEq, Inhabited

/-- A place and its letters at the start of a text, and the rest. -/
def readPlace? (s : Text) : Option (Place × Text × Text) :=
  let fields := s.takeWhile Char.isDigit
  let rest := s.drop fields.length
  let chars := match rest with
    | '.' :: rest => rest.takeWhile Char.isDigit
    | _ => []
  let rest := match rest with
    | '.' :: rest => rest.drop chars.length
    | rest => rest
  let letters := rest.takeWhile Char.isAlpha
  if fields.isEmpty then none
  else some (⟨Text.toNat fields, Text.toNat chars⟩, letters, rest.drop letters.length)

def Key.parse? (s : Text) : Option Key := do
  let (start, letters, rest) ← readPlace? s
  match rest with
  | [] => some ⟨start, none, letters⟩
  | ',' :: rest =>
    let (stop, more, rest) ← readPlace? rest
    if rest.isEmpty then some ⟨start, some stop, letters ++ more⟩ else none
  | _ => none

/-- What follows so many fields of a line. With a separator, that is passed over as well. -/
def afterFields (separator : Option Char) : Nat → Text → Text
  | 0, s => s
  | n + 1, s =>
    match separator with
    | some c => afterFields separator n ((s.dropWhile (· ≠ c)).drop 1)
    | none => afterFields separator n ((s.dropWhile isBlank).dropWhile (!isBlank ·))

/-- What follows the end of a field. -/
def afterField (separator : Option Char) (s : Text) : Text :=
  match separator with
  | some c => s.dropWhile (· ≠ c)
  | none => (s.dropWhile isBlank).dropWhile (!isBlank ·)

/-- The part of a line that a key is. -/
def Key.text (key : Key) (separator : Option Char) (m : Manner) (line : Text) : Text :=
  let skip := fun s : Text => if m.skipBlanks then s.dropWhile isBlank else s
  let start := skip (afterFields separator (key.start.fields - 1) line)
  let start := start.drop (key.start.chars - 1)
  let rest := match key.stop with
    | none => []
    | some place =>
      let fields := afterFields separator (place.fields - 1) line
      if place.chars = 0 then afterField separator fields
      else (skip fields).drop place.chars
  start.take (start.length - rest.length)

/-! ## Sorting -/

structure Sorting where
  keys : List Key
  separator : Option Char
  /-- The letters of the manner for keys without one of their own. -/
  letters : Text
  /-- Whether lines with equal keys are equal. -/
  byKeys : Bool
deriving Repr, DecidableEq, Inhabited

def Sorting.compare (o : Sorting) (s t : Text) : Ordering :=
  let byKey := fun (key : Key) =>
    let m := Manner.of (if key.letters.isEmpty then o.letters else key.letters)
    m.compare (key.text o.separator m s) (key.text o.separator m t)
  let first :=
    if o.keys.isEmpty then (Manner.of o.letters).compare s t
    else (o.keys.map byKey).foldl Ordering.then .eq
  if o.byKeys then first
  else
    let last := compareTexts s t
    first.then (if o.letters.contains 'r' then last.swap else last)

/-- Of equal elements that follow one another only the first. -/
def firstOfEach (same : Text → Text → Bool) : List Text → List Text
  | [] => []
  | s :: rest => s :: go same s rest
where
  /-- The elements after one that was kept. -/
  go (same : Text → Text → Bool) (kept : Text) : List Text → List Text
    | [] => []
    | s :: rest => if same kept s then go same kept rest else s :: go same s rest

/-- The first line that stands before a smaller one: its number and the line itself. -/
def disorder? (before : Text → Text → Bool) : Nat → List Text → Option (Nat × Text)
  | n, s :: t :: rest =>
    if before s t then disorder? before (n + 1) (t :: rest) else some (n + 1, t)
  | _, _ => none

def sortSpec : OptionSpec where
  flags := "nrubfdighVcCmMsRz"
  valued := "kotST"
  long := [("numeric-sort", 'n'), ("reverse", 'r'), ("unique", 'u'), ("ignore-leading-blanks", 'b'),
    ("ignore-case", 'f'), ("dictionary-order", 'd'), ("ignore-nonprinting", 'i'),
    ("general-numeric-sort", 'g'), ("human-numeric-sort", 'h'), ("version-sort", 'V'),
    ("check", 'c'), ("merge", 'm'), ("stable", 's'), ("key", 'k'), ("output", 'o'),
    ("field-separator", 't')]

/-- The sorting that options ask for. An error is a complaint. -/
def sorting (given : Given) : Except Text Sorting := do
  let keys ← (given.values 'k').mapM fun s => match Key.parse? s with
    | some key => if key.start.fields = 0 then
        .error ("field number is zero: invalid field specification \x27".toList ++ s ++ ['\''])
        else .ok key
    | none => .error ("invalid number at field start: invalid count at start of \x27".toList ++ s
        ++ ['\''])
  let separator ← match given.value? 't' with
    | none => pure none
    | some [c] => pure (some c)
    | some ['\\', '0'] => pure (some '\x00')
    | some [] => throw "empty tab".toList
    | some s => throw ("multi-character tab \x27".toList ++ s ++ ['\''])
  return {
    keys := keys
    separator := separator
    letters := "nrbfdighV".toList.filter given.has
    byKeys := given.has 's' || given.has 'u' }

/-- Prints the lines of files in order. -/
def sort : Tool :=
  sortSpec.tool "sort" 2 fun given => do
    match sorting given with
    | .error message => Work.complain "sort".toList message 2
    | .ok o =>
      let paths := if given.operands.isEmpty then [['-']] else given.operands
      let b ← get
      -- nothing is printed if one of the files cannot be read
      match paths.find? fun p => p ≠ ['-'] && (readFile b.disk p).toOption.isNone with
      | some path =>
        match readFile b.disk path with
        | .error .isADirectory =>
          Work.complain "sort".toList ("read failed: ".toList ++ path
            ++ ": Is a directory".toList) 2
        | .error e =>
          Work.complain "sort".toList
            ("cannot read: ".toList ++ path ++ ": ".toList ++ e.reason) 2
        | .ok _ => return
      | none =>
        let mark := if given.has 'z' then '\x00' else '\n'
        let lines := (← Work.sources "sort".toList paths 2).flatMap fun (_, s) => piecesOf mark s
        let before := fun s t => !(o.compare s t).isGT
        let checked := given.has 'c' || given.has 'C'
        if checked then
          let strict := fun s t => if given.has 'u' then (o.compare s t).isLT else before s t
          if let some (n, line) := disorder? strict 1 lines then
            if given.has 'c' then
              Work.complain "sort".toList (paths.headD [] ++ ':' :: Text.ofNat n
                ++ ": disorder: ".toList ++ line) 1
            else Work.worsen 1
        else
          let sorted := lines.mergeSort before
          let sorted := if given.has 'u' then firstOfEach (fun s t => (o.compare s t).isEq) sorted
            else sorted
          let printed := sorted.flatMap (· ++ [mark])
          match given.value? 'o' with
          | some path =>
            let _ ← Work.change fun disk => writeFile disk path printed
          | none => Work.print printed

/-! ## Repeated lines -/

/-- Runs of lines that are the same. -/
def groups (same : Text → Text → Bool) (lines : List Text) : List (List Text) :=
  lines.splitBy same

/-- The part of a line by which it is told apart. -/
def distinctive (given : Given) (line : Text) : Text :=
  let number := fun c => (given.value? c).map Text.toNat
  let afterFields := (List.range ((number 'f').getD 0)).foldl (fun (s : Text) _ =>
    (s.dropWhile isBlank).dropWhile (!isBlank ·)) line
  let part := afterFields.drop ((number 's').getD 0)
  let part := match number 'w' with
    | some n => part.take n
    | none => part
  if given.has 'i' then part.map Char.toLower else part

def uniqSpec : OptionSpec where
  flags := "cdDuiz"
  valued := "fsw"
  long := [("count", 'c'), ("repeated", 'd'), ("all-repeated", 'D'), ("unique", 'u'),
    ("ignore-case", 'i'), ("skip-fields", 'f'), ("skip-chars", 's'), ("check-chars", 'w')]

/-- Prints of the same lines that follow one another only one. -/
def uniq : Tool :=
  uniqSpec.tool "uniq" 1 fun given => do
    match ← Work.source (given.operands.headD ['-']) with
    | .error e => Work.complainOf "uniq".toList (given.operands.headD []) e 1
    | .ok s =>
      let groups := groups (fun s t => distinctive given s = distinctive given t) (linesOf s)
      let groups := groups.filter fun g =>
        (!given.has 'd' && !given.has 'D' || 1 < g.length) && (!given.has 'u' || g.length = 1)
      let printed := groups.flatMap fun g =>
        if given.has 'D' then unlines g
        else if given.has 'c' then
          padLeft 7 ' ' (Text.ofNat g.length) ++ ' ' :: Text.endLine (g.headD [])
        else Text.endLine (g.headD [])
      match given.operands with
      | [_, target] => let _ ← Work.change fun disk => writeFile disk target printed
      | _ => Work.print printed

/-! ## Common lines -/

/-- Sorted lines side by side: those only in the first list, only in the second, and in both. The
number of lines is fuel enough. -/
def sideBySide : Nat → List Text → List Text → List (Nat × Text)
  | 0, _, _ => []
  | _ + 1, s, [] => s.map (0, ·)
  | _ + 1, [], t => t.map (1, ·)
  | fuel + 1, a :: s, b :: t =>
    match compareTexts a b with
    | .lt => (0, a) :: sideBySide fuel s (b :: t)
    | .gt => (1, b) :: sideBySide fuel (a :: s) t
    | .eq => (2, a) :: sideBySide fuel s t

/-- The numbers of lists that turn out not to be sorted while they are put side by side. That is
looked at only after a line that is not in both: then after each line of a list the next one, or, at
the end of the list, the one before it. -/
def disorders : Nat → Bool → Option Text × List Text → Option Text × List Text → List Nat
  | 0, _, _, _ => []
  | fuel + 1, seen, (before, s), (previous, t) =>
    let wrong := fun (seen : Bool) (n : Nat) (before : Option Text) (line : Text)
        (rest : List Text) =>
      let (a, b) := match rest, before with
        | next :: _, _ => (line, next)
        | [], some b => (b, line)
        | [], none => (line, line)
      if seen && (compareTexts a b).isGT then [n] else []
    match s, t with
    | [], [] => []
    | a :: s, [] =>
      wrong true 1 before a s ++ disorders fuel true (some a, s) (previous, [])
    | [], b :: t =>
      wrong true 2 previous b t ++ disorders fuel true (before, []) (some b, t)
    | a :: s, b :: t =>
      match compareTexts a b with
      | .lt => wrong true 1 before a s ++ disorders fuel true (some a, s) (previous, b :: t)
      | .gt => wrong true 2 previous b t ++ disorders fuel true (before, a :: s) (some b, t)
      | .eq => wrong seen 1 before a s ++ wrong seen 2 previous b t
          ++ disorders fuel seen (some a, s) (some b, t)

def commSpec : OptionSpec where
  flags := "123"
  valued := ""
  long := []

/-- Prints the lines of two sorted files in columns. -/
def comm : Tool :=
  commSpec.tool "comm" 1 fun given => do
    match given.operands with
    | [first, second] =>
      match ← Work.source first, ← Work.source second with
      | .ok s, .ok t =>
        let (s, t) := (linesOf s, linesOf t)
        let shown := ['1', '2', '3'].map (!given.has ·)
        let column := fun n => ((shown.take n).count true)
        Work.print ((sideBySide (s.length + t.length + 1) s t).flatMap fun (n, line) =>
          if shown.getD n false then List.replicate (column n) '\t' ++ Text.endLine line else [])
        let wrong := (disorders (s.length + t.length + 1) false (none, s) (none, t)).eraseDups
        wrong.forM fun n => Work.complain "comm".toList
          ("file ".toList ++ Text.ofNat n ++ " is not in sorted order".toList) 1
        if !wrong.isEmpty then
          Work.complain "comm".toList "input is not in sorted order".toList 1
      | .error e, _ => Work.complainOf "comm".toList first e 1
      | _, .error e => Work.complainOf "comm".toList second e 1
    | _ => Work.complain "comm".toList "missing operand".toList 1

end Weave.Shell.Order

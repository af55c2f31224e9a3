import Weave.Shell.Arithmetic
import Weave.Shell.Tool.Basic

/-!
# Weave.Shell.Tool.Count — sizes and numbers

Counting the lines, words and bytes of files, numbering their lines, and sequences of numbers.
-/

namespace Weave.Shell.Count

/-! ## Counting -/

/-- The runs of characters that are not white space. -/
def wordsOf (s : Text) : List Text :=
  (s.splitOnP isSpace).filter (!·.isEmpty)

/-- The width of the longest line, where tabs lead to the next multiple of eight. -/
def longest (s : Text) : Nat :=
  let width := fun line : Text => line.foldl (fun n c =>
    if c = '\t' then n / 8 * 8 + 8 else if ' ' ≤ c && c ≤ '~' then n + 1 else n) 0
  ((linesOf s).map width).foldl max 0

def wcSpec : OptionSpec where
  flags := "lwcmL"
  valued := ""
  long := [("lines", 'l'), ("words", 'w'), ("bytes", 'c'), ("chars", 'm'), ("max-line-length", 'L')]

/-- The numbers that are asked for about a text. -/
def counts (letters : Text) (s : Text) : List Nat :=
  letters.map fun c =>
    match c with
    | 'l' => s.count '\n'
    | 'w' => (wordsOf s).length
    | 'L' => longest s
    | _ => s.length

def countLine (width : Nat) (numbers : List Nat) (name : Text) : Text :=
  let shown := (numbers.map fun n => padLeft width ' ' (Text.ofNat n)).intersperse [' ']
  shown.flatten ++ (if name.isEmpty then [] else ' ' :: name) ++ ['\n']

/-- The width of the numbers: that of the sum of the sizes, or of what cannot be known before. -/
def numberWidth (sizes : List (Option Nat)) (numbers : Nat) : Nat :=
  if sizes.length = 1 && numbers = 1 then 1
  else
    let total := sizes.foldl (fun total size => total + size.getD 0) 0
    max (Text.ofNat total).length (if sizes.contains none then 7 else 1)

/-- Counts the lines, words and bytes of files. -/
def wc : Tool :=
  wcSpec.tool "wc" 1 fun given => do
    let asked := ['l', 'w', 'm', 'c', 'L'].filter given.has
    let letters := if asked.isEmpty then ['l', 'w', 'c'] else asked
    let paths := if given.operands.isEmpty then [['-']] else given.operands
    let b ← get
    -- the columns are as wide as the sizes of the files ask for, before any of them is counted
    let sizes := paths.map fun path =>
      if path = ['-'] then if b.fromFile then some b.input.length else none
      else
        match readFile b.disk path with
        | .ok s => some s.length
        | .error .isADirectory => none
        | .error _ => some 0
    let width := numberWidth sizes letters.length
    let totals ← paths.foldlM (fun (totals : List Nat) path => do
      let name := if given.operands.isEmpty then [] else path
      match ← Work.source path with
      | .ok s =>
        let numbers := counts letters s
        Work.print (countLine width numbers name)
        return (totals.zip numbers).map fun (a, b) => a + b
      | .error e =>
        Work.complainOf "wc".toList path e 1
        if e = .isADirectory then Work.print (countLine width (letters.map fun _ => 0) name)
        return totals) (letters.map fun _ => 0)
    if 1 < paths.length then Work.print (countLine width totals "total".toList)

/-! ## Numbering -/

def nlSpec : OptionSpec where
  flags := "p"
  valued := "bvwsin"
  long := [("body-numbering", 'b'), ("starting-line-number", 'v'), ("number-width", 'w'),
    ("number-separator", 's'), ("line-increment", 'i'), ("number-format", 'n')]

/-- Prints files with numbered lines. -/
def nl : Tool :=
  nlSpec.tool "nl" 1 fun given => do
    let number := fun (c : Char) (usual : Nat) => ((given.value? c).map Text.toNat).getD usual
    let separator := (given.value? 's').getD ['\t']
    let width := number 'w' 6
    let all := given.value? 'b' = some ['a']
    let unnumbered := given.value? 'b' = some ['n']
    let label := fun n : Nat => match (given.value? 'n').map String.ofList with
      | some "ln" => Text.ofNat n ++ List.replicate (width - (Text.ofNat n).length) ' '
      | some "rz" => padLeft width '0' (Text.ofNat n)
      | _ => padLeft width ' ' (Text.ofNat n)
    let files ← Work.sources "nl".toList given.operands 1
    let _ ← (files.flatMap fun (_, s) => linesOf s).foldlM (fun n line => do
      if unnumbered || (line.isEmpty && !all) then
        Work.print (List.replicate (width + separator.length) ' ' ++ Text.endLine line)
        return n
      else
        Work.print (label n ++ separator ++ Text.endLine line)
        return n + number 'i' 1) (number 'v' 1)

/-! ## Sequences -/

/-- A decimal number as an integer and the number of its places. -/
def decimal? (s : Text) : Option (Int × Nat) :=
  let (negative, digits) := match s with
    | '-' :: rest => (true, rest)
    | '+' :: rest => (false, rest)
    | rest => (false, rest)
  let (whole, places) := match Text.splitAround? ['.'] digits with
    | some (whole, places) => (whole, places)
    | none => (digits, [])
  if (whole ++ places).isEmpty || !(whole ++ places).all Char.isDigit then none
  else
    let n : Int := Text.toNat (whole ++ places)
    some (if negative then -n else n, places.length)

def decimalText (places : Nat) (n : Int) : Text :=
  let digits := padLeft (places + 1) '0' (Text.ofNat n.natAbs)
  let whole := digits.take (digits.length - places)
  let point := if places = 0 then [] else '.' :: digits.drop (digits.length - places)
  (if n < 0 then ['-'] else []) ++ whole ++ point

/-- The numbers from one to another in steps. At most so many. -/
def steps (step last : Int) : Nat → Int → List Int
  | 0, _ => []
  | fuel + 1, n =>
    if (0 < step && last < n) || (step < 0 && n < last) then []
    else n :: steps step last fuel (n + step)

/-- A number filled with zeros after its sign. -/
def zeroPadded (width : Nat) (s : Text) : Text :=
  match s with
  | '-' :: digits => '-' :: padLeft (width - 1) '0' digits
  | digits => padLeft width '0' digits

def seqSpec : OptionSpec where
  flags := "w"
  valued := "sf"
  long := [("equal-width", 'w'), ("separator", 's'), ("format", 'f')]
  strict := true

/-- The most numbers that a sequence has. -/
def longestSequence : Nat := 1000000

/-- Prints a sequence of numbers. -/
def seq : Tool := fun args =>
  -- a negative number is no option, so that options end before it if they have not ended yet
  let leading := args.takeWhile fun a => !(a.head? = some '-' && (a.getD 1 'x').isDigit)
  let ended := match seqSpec.read (leading.length + 1) leading with
    | .ok given => !given.operands.isEmpty
    | .error _ => true
  let marked := if ended || leading.contains ['-', '-'] then args
    else leading ++ ['-', '-'] :: args.drop leading.length
  seqSpec.tool "seq" 1 (fun given => do
    let wrong := given.operands.find? fun a => (decimal? a).isNone
    match wrong, given.operands.map fun a => (decimal? a).getD (0, 0) with
    | some a, _ =>
      Work.misused "seq".toList ("invalid floating point argument: ".toList ++ quoted a) 1
    | none, [] => Work.misused "seq".toList "missing operand".toList 1
    | none, numbers =>
      let (first, step, last) := match numbers with
        | [last] => ((1, 0), (1, 0), last)
        | [first, last] => (first, (1, 0), last)
        | first :: step :: last :: _ => (first, step, last)
        | [] => ((1, 0), (1, 0), (1, 0))
      let places := max first.2 step.2
      let common := max places last.2
      let scaled := fun (n : Int × Nat) => n.1 * (Nat.pow 10 (common - n.2) : Nat)
      if step.1 = 0 then
        Work.misused "seq".toList "invalid Zero increment value: \x270\x27".toList 1
      else
        let values := steps (scaled step) (scaled last) longestSequence (scaled first)
        let unit := Nat.pow 10 (common - places)
        let texts := values.map fun n => decimalText places (n.tdiv unit)
        let width := (texts.map List.length).foldl max 0
        let texts := if given.has 'w' then texts.map (zeroPadded width) else texts
        let separator := (given.value? 's').getD ['\n']
        if !texts.isEmpty then Work.print ((texts.intersperse separator).flatten ++ ['\n'])) marked

end Weave.Shell.Count

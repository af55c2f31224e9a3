import Weave.Shell.Tool.Basic

/-!
# Weave.Shell.Tool.Excerpt — parts of files

The beginnings and ends of files, counted in lines or in bytes.
-/

namespace Weave.Shell.Excerpt

/-! ## Counting -/

structure Amount where
  count : Nat
  /-- The sign in front of the number: a minus asks for all but so much of the beginning, a plus for
  all from there to the end. -/
  sign : Option Char
  inBytes : Bool
deriving Repr, DecidableEq, Inhabited

/-- The factor that a letter after a number stands for. -/
def factor? (suffix : Text) : Option Nat :=
  match String.ofList suffix with
  | "" => some 1
  | "b" => some 512
  | "kB" => some 1000
  | "k" => some 1024
  | "K" => some 1024
  | "MB" => some 1000000
  | "M" => some 1048576
  | _ => none

def Amount.parse? (inBytes : Bool) (s : Text) : Option Amount :=
  let (sign, rest) := match s with
    | '-' :: rest => (some '-', rest)
    | '+' :: rest => (some '+', rest)
    | rest => (none, rest)
  let digits := rest.takeWhile Char.isDigit
  if digits.isEmpty then none
  else (factor? (rest.drop digits.length)).map fun f => ⟨Text.toNat digits * f, sign, inBytes⟩

/-- The units of a text: its lines or its bytes. -/
def Amount.units (amount : Amount) (s : Text) : List Text :=
  if amount.inBytes then s.map fun c => [c] else Text.lines s

/-- The beginning of a text, and the rest. -/
def Amount.head (amount : Amount) (s : Text) : Text × Text :=
  let units := amount.units s
  let n := if amount.sign = some '-' then units.length - amount.count else amount.count
  ((units.take n).flatten, (units.drop n).flatten)

def Amount.tail (amount : Amount) (s : Text) : Text :=
  let units := amount.units s
  let n := if amount.sign = some '+' then amount.count - 1 else units.length - amount.count
  (units.drop n).flatten

/-! ## Tools -/

def spec : OptionSpec where
  flags := "qvfFz"
  valued := "nc"
  long := [("lines", 'n'), ("bytes", 'c'), ("quiet", 'q'), ("silent", 'q'), ("verbose", 'v')]

/-- The arguments in which a number as the first option is written out. -/
def modern (args : List Text) : List Text :=
  match args with
  | ('-' :: digits) :: rest =>
    if Text.isDigits digits then ['-', 'n'] :: digits :: rest else args
  | _ => args

/-- The amount that options ask for. An error is a complaint. -/
def amount (given : Given) : Except Text Amount :=
  let wrong := fun (unit : String) (s : Text) =>
    "invalid number of ".toList ++ unit.toList ++ ": \x27".toList ++ s ++ ['\'']
  match given.options.reverse.find? fun o => o.1 = 'n' || o.1 = 'c' with
  | some ('c', s) => match Amount.parse? true s with
    | some a => .ok a
    | none => .error (wrong "bytes" s)
  | some (_, s) => match Amount.parse? false s with
    | some a => .ok a
    | none => .error (wrong "lines" s)
  | none => .ok ⟨10, none, false⟩

/-- What is printed above a file, if there are several. -/
def heading (first : Bool) (name : Text) : Text :=
  (if first then [] else ['\n']) ++ "==> ".toList ++ name ++ " <==\n".toList

/-- Prints a part of a file. Says whether the next file is still the first that is shown. -/
def printPart (tool : Text) (named : Bool) (part : Text → Text × Text) (first : Bool)
    (path : Text) : Work Bool := do
  let b ← get
  let content := if path = ['-'] then .ok b.input else readFile b.disk path
  let shown := if path = ['-'] then "standard input".toList else path
  match content with
  | .error .isADirectory =>
    if named then Work.print (heading first path)
    Work.complain tool ("error reading \x27".toList ++ path ++ "\x27: Is a directory".toList) 1
    return false
  | .error e =>
    Work.complain tool
      ("cannot open \x27".toList ++ path ++ "\x27 for reading: ".toList ++ e.reason) 1
    return first
  | .ok s =>
    let (piece, rest) := part s
    if path = ['-'] then set { b with input := if b.fromFile then rest else [] }
    if named then Work.print (heading first shown)
    Work.print piece
    return false

/-- Prints parts of files, with their names above them if there are several. -/
def tool (name : String) (part : Amount → Text → Text × Text) : Tool := fun args =>
  spec.tool name 1 (fun given => do
    match amount given with
    | .error message => Work.complain name.toList message 1
    | .ok amount =>
      let paths := if given.operands.isEmpty then [['-']] else given.operands
      let named := given.has 'v' || (1 < paths.length && !given.has 'q')
      let _ ← paths.foldlM (printPart name.toList named (part amount)) true) (modern args)

/-- Prints the beginnings of files. -/
def head : Tool :=
  tool "head" Amount.head

/-- Prints the ends of files. -/
def tail : Tool :=
  tool "tail" fun amount s => (amount.tail s, [])

end Weave.Shell.Excerpt

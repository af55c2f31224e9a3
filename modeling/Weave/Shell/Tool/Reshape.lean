import Weave.Shell.Tool.Basic

/-!
# Weave.Shell.Tool.Reshape — lines cut, joined and turned around

Columns of lines, lines of several files side by side, lines or files backwards, and lines that are
broken at a width.
-/

namespace Weave.Shell.Reshape

/-! ## Columns -/

/-- A range of positions, counted from one. Without an end it goes on to the end of the line. -/
structure Span where
  first : Nat
  last : Option Nat
deriving Repr, DecidableEq, Inhabited

/-- Whether a range holds a position. -/
def Span.has (span : Span) (n : Nat) : Bool :=
  span.first ≤ n && (span.last.all (n ≤ ·))

def Span.parse? (s : Text) : Option Span :=
  match Text.splitAround? ['-'] s with
  | none => if Text.isDigits s then some ⟨Text.toNat s, some (Text.toNat s)⟩ else none
  | some (first, last) =>
    if first.isEmpty && last.isEmpty then none
    else if !(first ++ last).all Char.isDigit then none
    else some ⟨if first.isEmpty then 1 else Text.toNat first,
      if last.isEmpty then none else some (Text.toNat last)⟩

def cutSpec : OptionSpec where
  flags := "snz~"
  valued := "bcfdO"
  long := [("bytes", 'b'), ("characters", 'c'), ("fields", 'f'), ("delimiter", 'd'),
    ("only-delimited", 's'), ("complement", '~'), ("output-delimiter", 'O')]

/-- The elements at the positions that are asked for. -/
def select {α : Type} (spans : List Span) (complement : Bool) (xs : List α) : List α :=
  (xs.zipIdx 1).filterMap fun (x, n) =>
    if (spans.any (·.has n)) ≠ complement then some x else none

/-- The part of a line that is asked for. Nothing if the line is left out. -/
def cutLine (given : Given) (spans : List Span) (line : Text) : Option Text :=
  let complement := given.has '~'
  if given.has 'f' then
    let mark := ((given.value? 'd').bind List.head?).getD '\t'
    if !line.contains mark then if given.has 's' then none else some line
    else
      let fields := select spans complement (line.splitOnP (· = mark))
      some ((fields.intersperse ((given.value? 'O').getD [mark])).flatten)
  else
    match given.value? 'O' with
    | none => some (select spans complement line)
    | some joint =>
      let kept := (line.zipIdx 1).filter fun (_, n) => (spans.any (·.has n)) ≠ complement
      let runs := kept.splitBy fun a b => a.2 + 1 = b.2
      some ((runs.map fun run => run.map Prod.fst).intersperse joint).flatten

def cutError (message : String) : Work Unit :=
  Work.misused "cut".toList message.toList 1

/-- Prints parts of each line. -/
def cut : Tool :=
  cutSpec.tool "cut" 1 fun given => do
    let lists := ['b', 'c', 'f'].filterMap given.value?
    let pieces := lists.flatMap fun s => s.splitOnP fun c => c = ',' || c = ' '
    let spans := pieces.filterMap Span.parse?
    if lists.isEmpty then
      cutError "you must specify a list of bytes, characters, or fields"
    else if 1 < lists.length then cutError "only one list may be specified"
    else if ((given.value? 'd').getD ['x']).length ≠ 1 then
      cutError "the delimiter must be a single character"
    else if given.has 'd' && !given.has 'f' then
      cutError "an input delimiter may be specified only when operating on fields"
    else if spans.length ≠ pieces.length then
      cutError (if given.has 'f' then "invalid field value" else "invalid byte or character range")
    else if spans.any (·.first = 0) then
      cutError (if given.has 'f' then "fields are numbered from 1"
        else "byte/character positions are numbered from 1")
    else if spans.any fun r => r.last.any (· < r.first) then
      cutError "invalid decreasing range"
    else
      let files ← Work.sources "cut".toList given.operands 1
      Work.print ((files.flatMap fun (_, s) => linesOf s).flatMap fun line =>
        ((cutLine given spans line).map Text.endLine).getD [])

/-! ## Side by side -/

def separators : Text → List Text
  | [] => []
  | '\\' :: 'n' :: rest => ['\n'] :: separators rest
  | '\\' :: 't' :: rest => ['\t'] :: separators rest
  | '\\' :: '0' :: rest => [] :: separators rest
  | '\\' :: c :: rest => [c] :: separators rest
  | c :: rest => [c] :: separators rest

/-- Texts joined by separators that are used in turn. -/
def joinInTurn (marks : List Text) (pieces : List Text) : Text :=
  match pieces with
  | [] => []
  | first :: rest =>
    first ++ ((rest.zipIdx).flatMap fun (s, i) => marks.getD (i % max 1 marks.length) [] ++ s)

def pasteSpec : OptionSpec where
  flags := "sz"
  valued := "d"
  long := [("serial", 's'), ("delimiters", 'd')]

/-- The lines of the files. The input, named several times, gives its lines in turn. -/
def fileLines (paths : List Text) : Work (List (List Text)) := do
  let turns := paths.count ['-']
  let input ← if 0 < turns then Work.takeInput else pure []
  let shared := (linesOf input).zipIdx
  let (files, _) ← paths.foldlM (fun ((files, turn) : List (List Text) × Nat) path => do
    if path = ['-'] then
      let own := shared.filterMap fun (line, i) => if i % turns = turn then some line else none
      return (files ++ [own], turn + 1)
    else
      match ← Work.source path with
      | .ok s => return (files ++ [linesOf s], turn)
      | .error e =>
        Work.complainOf "paste".toList path e 1
        return (files, turn)) ([], 0)
  return files

/-- Prints the lines of files side by side. -/
def paste : Tool :=
  pasteSpec.tool "paste" 1 fun given => do
    let marks := separators ((given.value? 'd').getD ['\t'])
    let paths := if given.operands.isEmpty then [['-']] else given.operands
    if given.has 's' then
      let files ← Work.sources "paste".toList paths 1
      Work.print (files.flatMap fun (_, s) => Text.endLine (joinInTurn marks (linesOf s)))
    else
      let files ← fileLines paths
      let height := (files.map List.length).foldl max 0
      Work.print ((List.range height).flatMap fun i =>
        Text.endLine (joinInTurn marks (files.map fun lines => lines.getD i [])))

/-! ## Backwards -/

def plainSpec : OptionSpec where
  flags := ""
  valued := ""
  long := []

/-- Prints the lines of files from the last to the first. -/
def tac : Tool :=
  plainSpec.tool "tac" 1 fun given => do
    let paths := if given.operands.isEmpty then [['-']] else given.operands
    paths.forM fun path => do
      match ← Work.source path with
      | .ok s => Work.print (Text.lines s).reverse.flatten
      | .error e =>
        Work.complain "tac".toList
          ("failed to open \x27".toList ++ path ++ "\x27 for reading: ".toList ++ e.reason) 1

/-- Prints each line of files from its end to its start. -/
def rev : Tool :=
  plainSpec.tool "rev" 1 fun given => do
    let paths := if given.operands.isEmpty then [['-']] else given.operands
    paths.forM fun path => do
      match ← Work.source path with
      | .ok s =>
        Work.print ((Text.lines s).flatMap fun line =>
          (Text.widen (Text.narrow (Text.stripLast '\n' line)).reverse)
            ++ if line.getLast? = some '\n' then ['\n'] else [])
      | .error e =>
        Work.complain "rev".toList ("cannot open ".toList ++ path ++ ": ".toList ++ e.reason) 1

/-! ## Broken lines -/

/-- A line in pieces of a width. A piece ends after its last blank, if it has one and that is asked
for. The length of the line is fuel enough. -/
def broken (width : Nat) (atBlanks : Bool) : Nat → Text → List Text
  | 0, _ => []
  | _ + 1, [] => []
  | fuel + 1, s =>
    if s.length ≤ width then [s]
    else
      let head := s.take width
      let kept := (head.reverse.dropWhile (· ≠ ' ')).reverse
      let piece := if atBlanks && !kept.isEmpty then kept else head
      piece :: broken width atBlanks fuel (s.drop (max 1 piece.length))

def foldSpec : OptionSpec where
  flags := "sb"
  valued := "w"
  long := [("width", 'w'), ("spaces", 's'), ("bytes", 'b')]

/-- Prints files with long lines broken. -/
def fold : Tool := fun args =>
  let args := match args with
    | ('-' :: digits) :: rest =>
      if Text.isDigits digits then ('-' :: 'w' :: digits) :: rest else args
    | _ => args
  foldSpec.tool "fold" 1 (fun given => do
    let width := ((given.value? 'w').map Text.toNat).getD 80
    let files ← Work.sources "fold".toList given.operands 1
    Work.print ((files.flatMap fun (_, s) => Text.lines s).flatMap fun line =>
      let content := Text.stripLast '\n' line
      ((broken width (given.has 's') (content.length + 1) content).intersperse ['\n']).flatten
        ++ if line.getLast? = some '\n' then ['\n'] else [])) args

/-! ## Copies -/

def teeSpec : OptionSpec where
  flags := "aip"
  valued := ""
  long := [("append", 'a')]

/-- Prints the input and writes it to files. -/
def tee : Tool :=
  teeSpec.tool "tee" 1 fun given => do
    let s ← Work.takeInput
    given.operands.forM fun path => do
      if path = "/dev/stdout".toList then return ← Work.print s
      if path = "/dev/stderr".toList then return ← Work.warn s
      let bench ← get
      let old := if given.has 'a' then (readFile bench.disk path).toOption.getD [] else []
      match ← Work.change fun disk => writeFile disk path (old ++ s) with
      | .ok () => return
      | .error e => Work.complainOf "tee".toList path e 1
    Work.print s

/-- The number of lines that are more than anybody reads. -/
def manyLines : Nat := 65536

/-- Prints a line again and again. -/
def yes : Tool := fun args =>
  let line := if args.isEmpty then ['y'] else (args.intersperse [' ']).flatten
  Work.print (List.replicate manyLines (Text.endLine line)).flatten

end Weave.Shell.Reshape

import Weave.Shell.RegexText
import Weave.Shell.Tool.Basic

/-!
# Weave.Shell.Tool.Search — lines with a match

Prints, counts or names the lines of files that match one of several patterns, or those that do not.
-/

namespace Weave.Shell.Search

/-! ## What is asked for -/

/-- What is done with the lines that were selected. -/
inductive Report where
  | lines
  | matched
  | counts
  /-- The names of files with selected lines, or of those without. -/
  | names (selected : Bool)
  | nothing
deriving Repr, DecidableEq, Inhabited

/-- What is searched for and how it is reported. -/
structure Query where
  patterns : List Regex
  folded : Bool
  inverted : Bool
  report : Report
  withNumbers : Bool
  withOffsets : Bool
  withNames : Bool
  /-- Files are searched as texts even if they hold NUL. -/
  asText : Bool
  silent : Bool
  recursive : Bool
  skipDirectories : Bool
  /-- The most lines that are selected. -/
  most : Option Nat
  /-- How many lines around selected ones are printed, before and after them. -/
  before : Nat
  after : Nat
deriving Inhabited

structure Line where
  number : Nat
  /-- The number of bytes before the line. -/
  offset : Nat
  content : Text
  selected : Bool
deriving Repr, DecidableEq, Inhabited

namespace Query

/-- The first match in a part of a line, the longest of those that the patterns have there. -/
def find? (query : Query) (index : Nat) (before : Option Char) (rest : Text) :
    Option Regex.Found :=
  (query.patterns.filterMap fun r => r.find? query.folded index before rest).foldl
    (fun best found =>
      match best with
      | some b =>
        if found.start < b.start || (found.start = b.start && b.stop < found.stop) then some found
        else best
      | none => some found) none

/-- All matches in a part of a line that are not empty: where they begin and what they are. The
number of characters is fuel enough. -/
def matched (query : Query) : Nat → Nat → Option Char → Text → List (Nat × Text)
  | 0, _, _, _ => []
  | fuel + 1, index, before, rest =>
    match query.find? index before rest with
    | none => []
    | some found =>
      let skipped := found.start - index
      let length := found.stop - found.start
      let s := (rest.drop skipped).take length
      -- after an empty match the search goes on behind the next character
      let used := skipped + max 1 length
      if rest.length < used then []
      else
        let more := matched query fuel (index + used) rest[used - 1]? (rest.drop used)
        if s.isEmpty then more else (found.start, s) :: more

/-- The lines of a text, each of them selected or not. When enough lines are selected, the others
are not. -/
def select (query : Query) : Nat → Nat → Nat → List Text → List Line
  | _, _, _, [] => []
  | number, offset, chosen, line :: rest =>
    let content := Text.stripLast '\n' line
    let selected := (query.most.all fun n => chosen < n)
      && (query.find? 0 none content).isSome != query.inverted
    ⟨number, offset, content, selected⟩
      :: select query (number + 1) (offset + line.length) (chosen + if selected then 1 else 0) rest

/-- Whether a line is printed: it is selected or near one that is. -/
def isShown (query : Query) (selected : List Nat) (number : Nat) : Bool :=
  selected.any fun n => n ≤ number + query.before && number ≤ n + query.after

/-- What stands in front of a line or of a match. -/
def heading (query : Query) (name : Text) (line : Line) (offset : Nat) : Text :=
  let mark := if line.selected then [':'] else ['-']
  (if query.withNames then name ++ mark else [])
    ++ (if query.withNumbers then Text.ofNat line.number ++ mark else [])
    ++ (if query.withOffsets then Text.ofNat offset ++ mark else [])

/-- The lines that are printed. Between parts of a text that do not touch stands a mark, and also at
the start if something was printed before. -/
def printedLines (query : Query) (name : Text) (started : Bool) (lines : List Line) : Text :=
  let context := 0 < query.before || 0 < query.after
  let selected := (lines.filter (·.selected)).map (·.number)
  let shown := lines.filter fun l => query.isShown selected l.number
  let gaps := shown.zip (none :: shown.map fun l => some l.number)
  gaps.flatMap fun (line, previous) =>
    let isGap := match previous with
      | none => started
      | some n => n + 1 < line.number
    (if context && isGap then "--\n".toList else [])
      ++ query.heading name line line.offset ++ Text.endLine line.content

def printedMatches (query : Query) (name : Text) (lines : List Line) : Text :=
  (lines.filter (·.selected)).flatMap fun line =>
    if query.inverted then []
    else (query.matched (line.content.length + 1) 0 none line.content).flatMap fun (start, s) =>
      query.heading name line (line.offset + start) ++ Text.endLine s

/-! ## Files -/

/-- What is known between two files. -/
structure Progress where
  /-- Whether a line was selected. -/
  found : Bool
  /-- Whether a line was printed. -/
  started : Bool
deriving Repr, DecidableEq, Inhabited

/-- Searches a text and reports what was found. -/
def inText (query : Query) (progress : Progress) (name s : Text) : Work Progress := do
  let lines := query.select 1 0 0 (Text.lines s)
  let count := (lines.filter (·.selected)).length
  let found := 0 < count
  let after : Progress := ⟨progress.found || found, progress.started || found⟩
  match query.report with
  | .nothing => return after
  | .counts =>
    Work.print ((if query.withNames then name ++ [':'] else [])
      ++ Text.endLine (Text.ofNat count))
    return after
  | .names selected =>
    if found = selected then Work.print (Text.endLine name)
    return ⟨progress.found || found = selected, true⟩
  | .lines | .matched =>
    -- what is not text is not printed
    if !query.asText && s.contains '\x00' && found then
      Work.complain "grep".toList (name ++ ": binary file matches".toList) 0
    else
      Work.print (if query.report = .matched then query.printedMatches name lines
        else query.printedLines name progress.started lines)
    return after

/-- The input that is left when the last line that was asked for was read from a file. -/
def unread (query : Query) (s : Text) : Text :=
  let lines := query.select 1 0 0 (Text.lines s)
  let selected := lines.filter (·.selected)
  match query.most, selected.getLast? with
  | some n, some last =>
    if selected.length = n then s.drop (last.offset + last.content.length + 1) else []
  | _, _ => []

def inFile (query : Query) (progress : Progress) (path : Text) : Work Progress := do
  let b ← get
  if path = ['-'] then
    set { b with input := if b.fromFile then query.unread b.input else [] }
    query.inText progress "(standard input)".toList b.input
  else
    match readFile b.disk path with
    | .ok s => query.inText progress path s
    | .error .isADirectory =>
      if !query.skipDirectories then
        Work.complain "grep".toList (path ++ ": Is a directory".toList) 2
        let _ ← query.inText progress path []
      return progress
    | .error e =>
      if query.silent then Work.worsen 2
      else Work.complainOf "grep".toList path e 2
      return progress

/-- The files at a path and below it, sorted. -/
def filesBelow (disk : Disk) (path : Text) : List Text :=
  if isDirectory disk path then
    let base := if path.getLast? = some '/' then path else path ++ ['/']
    let names := (disk.listBelow (locationOf disk path)).filterMap fun (name, node) =>
      match node with
      | .file _ => some (base ++ Text.widen name)
      | _ => none
    names.mergeSort notAfter
  else [path]

def run (query : Query) (paths : List Text) : Work Unit := do
  let disk := (← get).disk
  let paths := if query.recursive then paths.flatMap (filesBelow disk) else paths
  let progress ← paths.foldlM query.inFile ⟨false, false⟩
  let status := (← get).status
  modify fun b => { b with status :=
    if progress.found && (query.report = .nothing || status = 0) then 0
    else if status = 0 then 1 else status }

end Query

/-! ## Arguments -/

inductive Form where
  | basic
  | extended
  | fixed
deriving Repr, DecidableEq, Inhabited

def spec : OptionSpec where
  flags := "EFGPiyvclLqsnowxhHraRbUzT"
  valued := "efmABCdD"
  long := [("extended-regexp", 'E'), ("fixed-strings", 'F'), ("basic-regexp", 'G'),
    ("ignore-case", 'i'), ("invert-match", 'v'), ("count", 'c'), ("files-with-matches", 'l'),
    ("files-without-match", 'L'), ("quiet", 'q'), ("silent", 'q'), ("no-messages", 's'),
    ("line-number", 'n'), ("only-matching", 'o'), ("word-regexp", 'w'), ("line-regexp", 'x'),
    ("no-filename", 'h'), ("with-filename", 'H'), ("recursive", 'r'), ("text", 'a'),
    ("byte-offset", 'b'), ("regexp", 'e'), ("file", 'f'), ("max-count", 'm'),
    ("after-context", 'A'), ("before-context", 'B'), ("context", 'C'), ("directories", 'd'),
    ("perl-regexp", 'P')]

/-- The form that the options ask for, the last one if there are several. -/
def formOf (usual : Form) (given : Given) : Form :=
  match given.options.reverse.find? fun o => "EFGP".toList.contains o.1 with
  | some (letter, _) =>
    if letter = 'F' then .fixed else if letter = 'G' then .basic else .extended
  | none => usual

/-- The expression for a pattern. Whole words or lines can be asked for. -/
def expression (given : Given) (form : Form) (pattern : Text) : Except RegexError Regex := do
  let r ← match form with
    | .fixed => pure (Regex.ofText pattern)
    | form => (Regex.parse (form = .extended) pattern).map Prod.fst
  if given.has 'x' then return .all [.edge .lineStart, r, .edge .lineEnd]
  else if given.has 'w' then return .all [.edge .notAfterWord, r, .edge .notBeforeWord]
  else return r

def reportOf (given : Given) : Report :=
  if given.has 'q' then .nothing
  else
    match given.options.reverse.find? fun o => o.1 = 'l' || o.1 = 'L' with
    | some (letter, _) => .names (letter = 'l')
    | none => if given.has 'c' then .counts else if given.has 'o' then .matched else .lines

/-- A number that an option gives. The error is a complaint. -/
def countOf (given : Given) (letter : Char) (message : String) : Except Text (Option Nat) :=
  match given.value? letter with
  | some s => if Text.isDigits s then .ok (some (Text.toNat s)) else .error (message.toList)
  | none => .ok none

/-- The patterns that the arguments give, and the files. An error is a complaint without a text if
there is no pattern. -/
def patternsOf (disk : Disk) (input : Text) (given : Given) :
    Except Text (List Text × List Text) := do
  let listed ← given.options.filterMapM fun (letter, value) => do
    if letter = 'e' then return some (value.splitOnP (· = '\n'))
    else if letter = 'f' then
      match if value = ['-'] then .ok input else readFile disk value with
      | .ok s => return some (linesOf s)
      | .error e => throw (value ++ ": ".toList ++ e.reason)
    else return none
  if !listed.isEmpty then return (listed.flatten, given.operands)
  match given.operands with
  | first :: rest => return (first.splitOnP (· = '\n'), rest)
  | [] => throw []

/-- The search that the arguments ask for, and the files. -/
def prepare (usual : Form) (disk : Disk) (input : Text) (given : Given) :
    Except Text (Query × List Text) := do
  let (patterns, files) ← patternsOf disk input given
  let length := "invalid context length argument"
  let named := fun (s : Except Text (Option Nat)) (letter : Char) =>
    s.mapError fun message => (given.value? letter).getD [] ++ ": ".toList ++ message
  let around ← named (countOf given 'C' length) 'C'
  let before ← named (countOf given 'B' length) 'B'
  let after ← named (countOf given 'A' length) 'A'
  let most ← countOf given 'm' "invalid max count"
  let patterns ← (patterns.mapM (expression given (formOf usual given))).mapError (·.message)
  let recursive := given.has 'r' || given.has 'R'
  return ({
    patterns := patterns
    folded := given.has 'i' || given.has 'y'
    inverted := given.has 'v'
    report := reportOf given
    withNumbers := given.has 'n'
    withOffsets := given.has 'b'
    -- the last of two options that contradict each other counts
    withNames := match given.options.reverse.find? fun o => o.1 = 'h' || o.1 = 'H' with
      | some (letter, _) => letter = 'H'
      | none => 1 < files.length || recursive
    asText := given.has 'a'
    silent := given.has 's'
    recursive := recursive
    skipDirectories := given.value? 'd' = some "skip".toList
    most := most
    before := (before.orElse fun () => around).getD 0
    after := (after.orElse fun () => around).getD 0 }, files)

/-- The arguments in which a number alone asks for lines around. -/
def modern (args : List Text) : List Text :=
  args.map fun a =>
    match a with
    | '-' :: digits => if Text.isDigits digits then '-' :: 'C' :: digits else a
    | a => a

/-- Prints lines that match. -/
def tool (usual : Form) : Tool := fun args => do
  let usage := "Usage: grep [OPTION]... PATTERNS [FILE]...\n".toList
    ++ "Try \x27grep --help\x27 for more information.\n".toList
  match spec.read (args.length + 1) (modern (args.filter fun a =>
      !"--color".toList.isPrefixOf a && a ≠ "--line-buffered".toList)) with
  | .error message =>
    Work.complain "grep".toList message 2
    Work.warn usage
  | .ok given =>
    let disk := (← get).disk
    let input := (← get).input
    if (given.values 'f').contains ['-'] then
      let _ ← Work.takeInput
    match prepare usual disk input given with
    | .error [] =>
      Work.warn usage
      Work.worsen 2
    | .error message => Work.complain "grep".toList message 2
    | .ok (query, files) =>
      let files := if !files.isEmpty then files
        else if !query.recursive then [['-']]
        else (namesIn disk disk.workDir true).flatMap (Query.filesBelow disk)
      query.run files

end Weave.Shell.Search

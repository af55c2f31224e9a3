import Weave.Shell.Format
import Weave.Shell.Tool.Basic
import Weave.Shell.Tool.Edit.Program

/-!
# Weave.Shell.Tool.Edit.Machine — running programs on lines

A machine holds a line, changes it by the steps of a program and prints it. Then it takes the next
line, until there is none.
-/

namespace Weave.Shell.Edit

/-! ## State -/

structure Line where
  /-- The name of the file in which the line is. -/
  file : Text
  content : Text
  /-- Whether a line feed ends it. -/
  ended : Bool
deriving Repr, DecidableEq, Inhabited

/-- What is printed at the end of a cycle. -/
inductive Queued where
  | text (s : Text)
  | file (path : Text)
  /-- The next line of a file. -/
  | lineOf (path : Text)
deriving Repr, DecidableEq, Inhabited

structure Machine where
  program : List Step
  /-- Whether lines are printed only when that is asked for. -/
  silent : Bool
  /-- The mark at the end of lines. -/
  mark : Char
  disk : Disk
  /-- The lines that were not read yet. -/
  lines : List Line
  number : Nat
  line : Line
  held : Text
  queue : List Queued
  /-- What was printed, last first. -/
  output : List Text
  /-- Whether what was printed last lacks the end of its line. -/
  isOpen : Bool
  /-- The spans that were begun, by their steps, and the numbers of their last lines if they are
  known. -/
  spans : Store Nat (Option Nat)
  /-- Whether a replacement was made since the last line was read or jump was made. -/
  replaced : Bool
  latest : Option Pattern
  /-- What was written to files. -/
  written : Store Text Text
  /-- How many lines of files were read. -/
  consumed : Store Text Nat
deriving Inhabited

/-- What a machine does. -/
abbrev Action : Type → Type :=
  ExceptT Text (StateM Machine)

inductive End where
  | finished
  /-- The line is not printed. -/
  | dropped
  /-- The next cycle goes on with the line that is left. -/
  | again
  | quit (status : Nat) (silent : Bool)
deriving Repr, DecidableEq, Inhabited

/-! ## Printing -/

/-- Prints a text. A line before it is ended first. -/
def emit (s : Text) (ended : Bool) : Action Unit :=
  modify fun m => { m with
    output := s :: if m.isOpen then [m.mark] :: m.output else m.output
    isOpen := !ended }

/-- Prints a text as a line that ends as the current one does. -/
def emitLine (s : Text) : Action Unit := do
  let m ← get
  emit (if m.line.ended then s ++ [m.mark] else s) m.line.ended

/-- Appends a line to a file, which may be the output. -/
def writeLine (path s : Text) : Action Unit := do
  if path = "/dev/stdout".toList then emitLine s
  else
    modify fun m =>
      let old := (m.written.get? path).getD []
      { m with written := m.written.insert path (old ++ s ++ [m.mark]) }

/-- Prints what was put into the queue. -/
def flush : Action Unit := do
  let m ← get
  set { m with queue := [] }
  m.queue.forM fun q => do
    match q with
    | .text s => if !s.isEmpty then emit s true
    | .file path =>
      let s := (readFile m.disk path).toOption.getD []
      if !s.isEmpty then emit s true
    | .lineOf path =>
      let count := ((← get).consumed.get? path).getD 0
      let lines := linesOf ((readFile m.disk path).toOption.getD [])
      modify fun m => { m with consumed := m.consumed.insert path (count + 1) }
      (lines[count]?).forM fun line => emit (Text.endLine line) true

/-- Prints the line, unless lines are only printed when that is asked for. -/
def autoPrint : Action Unit := do
  let m ← get
  if !m.silent then emitLine m.line.content

/-- Takes the next line. Says whether there was one. -/
def takeLine : Action Bool := do
  let m ← get
  match m.lines with
  | [] => return false
  | line :: rest =>
    set { m with lines := rest, line := line, number := m.number + 1 }
    return true

def later (q : Queued) : Action Unit :=
  modify fun m => { m with queue := m.queue ++ [q] }

def alter (f : Text → Text) : Action Unit :=
  modify fun m => { m with line := { m.line with content := f m.line.content } }

/-! ## Addresses -/

/-- The pattern that is meant: a given one, or the one that was used last. -/
def patternFor (pattern : Option Pattern) : Action Pattern := do
  let m ← get
  match pattern.orElse fun () => m.latest with
  | some p =>
    modify fun m => { m with latest := some p }
    return p
  | none => throw "-e expression #1, char 0: no previous regular expression".toList

def isAt : Place → Action Bool
  | .line n => return (← get).number = n
  | .every first step => do
    let n := (← get).number
    return if step = 0 then n = first else first ≤ n && (n - first) % step = 0
  | .last => return (← get).lines.isEmpty
  | .found pattern => do
    let p ← patternFor pattern
    return (p.regex.find? p.folded 0 none (← get).line.content).isSome

/-- Whether a span that was begun goes on with the current line. -/
def goesOn (index : Nat) (stop : Stop) (last : Option Nat) : Action Bool := do
  let close : Action Unit := modify fun m => { m with spans := m.spans.erase index }
  match last, stop with
  | some n, _ =>
    let number := (← get).number
    if n ≤ number then close
    return number ≤ n
  | none, .at place =>
    if ← isAt place then close
    return true
  | none, _ => return true

/-- Whether a span begins with the current line. -/
def begins (index : Nat) (first : Place) (stop : Stop) : Action Bool := do
  let start := fun (last : Option Nat) =>
    modify fun m => { m with spans := m.spans.insert index last }
  let number := (← get).number
  match first, stop with
  | .line 0, stop =>
    if number = 1 then
      start none
      goesOn index stop none
    else return false
  | first, stop =>
    if !(← isAt first) then return false
    match stop with
    | .at (.line n) => if number < n then start (some n)
    | .at _ => start none
    | .after n => if n ≠ 0 then start (some (number + n))
    | .multiple n => if n ≠ 0 then start (some ((number / n + 1) * n))
    return true

def isFor (step : Step) : Action Bool := do
  let chosen ← match step.address with
    | .all => pure true
    | .single place => isAt place
    | .span first stop =>
      match (← get).spans.get? step.index with
      | some last => goesOn step.index stop last
      | none => begins step.index first stop
  return chosen != step.negated

/-! ## Replacing -/

/-- Letters with a change, where one of the first letter goes before one of all. -/
def recase (whole next : Casing) (s : Text) : Text :=
  let all := match whole with
    | .upper => s.map Char.toUpper
    | .lower => s.map Char.toLower
    | _ => s
  match next, all with
  | .upperNext, c :: rest => c.toUpper :: rest
  | .lowerNext, c :: rest => c.toLower :: rest
  | _, all => all

/-- What replaces a match, by the text of its groups. -/
def expandParts (group : Nat → Text) : Casing → Casing → List Part → Text
  | _, _, [] => []
  | whole, next, part :: rest =>
    let put := fun s : Text =>
      recase whole next s ++ expandParts group whole (if s.isEmpty then next else .plain) rest
    match part with
    | .text s => put s
    | .group n => put (group n)
    | .casing .upperNext => expandParts group whole .upperNext rest
    | .casing .lowerNext => expandParts group whole .lowerNext rest
    | .casing change => expandParts group change next rest

/-- A text in which matches are replaced, and whether one was. So many matches were passed over. An
empty match right after another one does not count. The number of characters is fuel enough. -/
def replaceFrom (r : Replacement) (p : Pattern) :
    Nat → Nat → Nat → Bool → Option Char → Text → Text × Bool
  | 0, _, _, _, _, s => (s, false)
  | fuel + 1, count, index, afterMatch, before, s =>
    match p.regex.find? p.folded index before s with
    | none => (s, false)
    | some found =>
      let skipped := s.take (found.start - index)
      let rest := s.drop (found.start - index)
      let matched := rest.take (found.stop - found.start)
      -- where a match has ended, an empty one is passed over and not counted
      let isVoid := matched.isEmpty && skipped.isEmpty && afterMatch
      let count := if isVoid then count else count + 1
      let chosen := !isVoid && r.first ≤ count
      let group := fun n => if n = 0 then matched
        else ((found.groups.find? (·.1 = n)).map Prod.snd).getD []
      let put := if chosen then expandParts group .plain .plain r.parts else matched
      if chosen && !r.all then (skipped ++ put ++ rest.drop matched.length, true)
      else if matched.isEmpty then
        match rest with
        | [] => (skipped ++ put, chosen)
        | c :: more =>
          let (t, changed) := replaceFrom r p fuel count (found.start + 1) false (some c) more
          (skipped ++ put ++ c :: t, chosen || changed)
      else
        let (t, changed) := replaceFrom r p fuel count found.stop true matched.getLast?
          (rest.drop matched.length)
        (skipped ++ put ++ t, chosen || changed)

/-- Replaces matches in the line. -/
def substitute (r : Replacement) : Action Unit := do
  let p ← patternFor r.pattern
  let s := (← get).line.content
  let (t, changed) := replaceFrom r p (s.length + 2) 0 0 false none s
  if changed then
    alter fun _ => t
    modify fun m => { m with replaced := true }
    if r.print then emitLine t
    r.file.forM fun path => writeLine path t

/-! ## Showing -/

/-- A character without ambiguities. -/
def shown (c : Char) : Text :=
  match c with
  | '\\' => ['\\', '\\']
  | '\x07' => ['\\', 'a']
  | '\x08' => ['\\', 'b']
  | '\x0c' => ['\\', 'f']
  | '\n' => ['\\', 'n']
  | '\r' => ['\\', 'r']
  | '\t' => ['\\', 't']
  | '\x0b' => ['\\', 'v']
  | c =>
    if ' ' ≤ c && c ≤ '~' then [c]
    else '\\' :: padLeft 3 '0' (Nat.toDigits 8 c.toNat)

/-- Pieces one after another, broken into lines of a width. -/
def wrapped (width : Nat) : Nat → List Text → Text
  | _, [] => []
  | used, piece :: rest =>
    if 1 < width && width - 1 < used + piece.length then
      ['\\', '\n'] ++ piece ++ wrapped width piece.length rest
    else piece ++ wrapped width (used + piece.length) rest

/-! ## Steps -/

/-- What a jump to a label goes on with. -/
def target (m : Machine) (name : Text) : List Step :=
  if name.isEmpty then [] else afterLabel name m.program

/-- Does what steps say that do not change the order of steps. -/
def perform (deed : Deed) : Action Unit := do
  let m ← get
  match deed with
  | .number => emit (Text.ofNat m.number ++ ['\n']) true
  | .append s => later (.text s)
  | .insert s => emit s true
  | .print => emitLine m.line.content
  | .printLine => emit ((m.line.content.takeWhile (· ≠ '\n')) ++ ['\n']) true
  | .show width => emit (wrapped (width.getD 70) 0 (m.line.content.map shown) ++ ['$', '\n']) true
  | .store more =>
    set { m with held := if more then m.held ++ '\n' :: m.line.content else m.line.content }
  | .fetch more => alter fun s => if more then s ++ '\n' :: m.held else m.held
  | .swap =>
    set { m with held := m.line.content, line := { m.line with content := m.held } }
  | .clear => alter fun _ => []
  | .read file => later (.file file)
  | .readLine file => later (.lineOf file)
  | .write file => writeLine file m.line.content
  | .writeLine file => writeLine file (m.line.content.takeWhile (· ≠ '\n'))
  | .fileName => emit (m.line.file ++ ['\n']) true
  | .replace r => substitute r
  | .map table => alter fun s => s.map fun c =>
      ((table.find? (·.1 = c)).map Prod.snd).getD c
  | _ => return

/-- Runs steps on the current line. Programs can jump for ever; fuel ends them. -/
def run : Nat → List Step → Action End
  | 0, _ => return .quit 1 true
  | _, [] => return .finished
  | fuel + 1, step :: rest => do
    if !(← isFor step) then
      match step.deed with
      | .open => run fuel (afterBlock 0 rest)
      | _ => run fuel rest
    else
      let m ← get
      match step.deed with
      | .jump condition name =>
        let jumps := match condition with
          | .always => true
          | .replaced => m.replaced
          | .notReplaced => !m.replaced
        if condition ≠ .always then set { m with replaced := false }
        run fuel (if jumps then target m name else rest)
      | .change s =>
        -- for a span the text stands in the place of all its lines
        if step.negated || (m.spans.get? step.index).isNone then emit s true
        return .dropped
      | .delete => return .dropped
      | .deleteLine =>
        if m.line.content.contains '\n' then
          alter fun s => (s.dropWhile (· ≠ '\n')).tail
          return .again
        else return .dropped
      | .next =>
        if m.lines.isEmpty then return .quit 0 false
        autoPrint
        flush
        let _ ← takeLine
        run fuel rest
      | .join =>
        if m.lines.isEmpty then return .quit 0 false
        flush
        let _ ← takeLine
        alter fun s => m.line.content ++ m.mark :: s
        run fuel rest
      | .quit status silent => return .quit status silent
      | deed =>
        perform deed
        run fuel rest

/-- Fuel for the steps on one line. -/
def stepFuel : Nat := 100000

/-- Runs the program on all lines, where `isFresh` says whether a line is to be taken first. The
status is given back. -/
def cycles : Nat → Bool → Action Nat
  | 0, _ => return 0
  | fuel + 1, isFresh => do
    if isFresh then
      if !(← takeLine) then return 0
      modify fun m => { m with replaced := false }
    match ← run stepFuel (← get).program with
    | .finished =>
      autoPrint
      flush
      cycles fuel true
    | .dropped =>
      flush
      cycles fuel true
    | .again =>
      flush
      cycles fuel false
    | .quit status silent =>
      if !silent then
        autoPrint
        flush
      return status

end Weave.Shell.Edit

import Weave.Shell.Arithmetic
import Weave.Shell.RegexText
import Weave.Shell.Tool.Edit.Program

/-!
# Weave.Shell.Tool.Edit.Script — reading programs for lines

The grammar of the line editor: addresses, letters of commands and what follows each of them.
-/

namespace Weave.Shell.Edit

/-! ## Errors -/

/-- Where in a script an error is. -/
inductive Spot where
  /-- So many characters were left. -/
  | before (left : Nat)
  | start
  | nowhere
deriving Repr, DecidableEq, Inhabited

/-- Why a text is no program. -/
structure ScriptError where
  spot : Spot
  message : Text
deriving Repr, DecidableEq, Inhabited

/-- Something that is read from a script. -/
abbrev Reader : Type → Type :=
  StateT Text (Except ScriptError)

def fail {α : Type} (message : String) : Reader α := do
  throw ⟨.before (← get).length, message.toList⟩

/-! ## Characters -/

def next? : Reader (Option Char) :=
  modifyGet fun s => (s.head?, s.tail)

/-- Whether a character is blank but ends no line. -/
def isGap (c : Char) : Bool :=
  isSpace c && c ≠ '\n'

/-- Passes over blanks. -/
def skipGaps : Reader Unit :=
  modify fun s => s.dropWhile isGap

def number? : Reader (Option Nat) :=
  modifyGet fun s =>
    let digits := s.takeWhile Char.isDigit
    (if digits.isEmpty then none else some (Text.toNat digits), s.drop digits.length)

def restOfLine : Reader Text :=
  modifyGet fun s =>
    let line := s.takeWhile (· ≠ '\n')
    (line, s.drop (line.length + 1))

def finish : Reader Unit := do
  skipGaps
  match (← get).head? with
  | none => return
  | some c =>
    if c = '\x7d' || c = '#' then return
    let _ ← next?
    if c ≠ '\n' && c ≠ ';' then fail "extra characters after command"

/-! ## Texts -/

/-- The character for an escape that names it by a letter or a number, and the rest. -/
def namedChar? (s : Text) : Option (Char × Text) :=
  let coded := fun (base width : Nat) (s : Text) =>
    let digits := (s.take width).takeWhile fun c => (Text.hexValue? c).any (· < base)
    if digits.isEmpty then none
    else (Text.digitsValue? base digits).map fun n => (Char.ofNat (n % 256), s.drop digits.length)
  match s with
  | 'a' :: rest => some ('\x07', rest)
  | 'f' :: rest => some ('\x0c', rest)
  | 'r' :: rest => some ('\r', rest)
  | 't' :: rest => some ('\t', rest)
  | 'v' :: rest => some ('\x0b', rest)
  | 'd' :: rest => coded 10 3 rest
  | 'o' :: rest => coded 8 3 rest
  | 'x' :: rest => coded 16 2 rest
  | _ => none

/-- A text in which escapes that name characters are replaced. The number of characters is fuel
enough. -/
def nameChars : Nat → Text → Text
  | 0, s => s
  | _ + 1, [] => []
  | fuel + 1, '\\' :: rest =>
    match namedChar? rest with
    | some (c, rest) => c :: nameChars fuel rest
    | none =>
      match rest with
      | c :: rest => '\\' :: c :: nameChars fuel rest
      | [] => ['\\']
  | fuel + 1, c :: rest => c :: nameChars fuel rest

/-- A set of characters in a pattern up to its closing bracket, and the rest. -/
def bracketed? : SetPlace → Text → Option (Text × Text)
  | .start, '^' :: rest => (bracketed? .first rest).map fun (s, rest) => ('^' :: s, rest)
  | .inside, ']' :: rest => some ([']'], rest)
  | .named, ':' :: ']' :: rest =>
    (bracketed? .inside rest).map fun (s, rest) => (':' :: ']' :: s, rest)
  | .named, c :: rest => (bracketed? .named rest).map fun (s, rest) => (c :: s, rest)
  | _, '[' :: ':' :: rest =>
    (bracketed? .named rest).map fun (s, rest) => ('[' :: ':' :: s, rest)
  | _, '\\' :: 'n' :: rest => (bracketed? .inside rest).map fun (s, rest) => ('\n' :: s, rest)
  | _, c :: rest =>
    if c = '\n' then none else (bracketed? .inside rest).map fun (s, rest) => (c :: s, rest)
  | _, [] => none

/-- The text up to a mark, and what follows the mark. A backslash before the mark takes its meaning
away, and then it is dropped; other backslashes stay. In patterns `\n` is a line feed and sets of
characters can hold the mark. The number of characters is fuel enough. -/
def upTo? (mark : Char) (isPattern : Bool) : Nat → Text → Option (Text × Text)
  | 0, _ => none
  | _ + 1, [] => none
  | fuel + 1, '\\' :: c :: rest =>
    let kept := if c = 'n' && isPattern then ['\n']
      else if c = '\n' || (c = mark && (isPattern || c ≠ '&')) then [c]
      else ['\\', c]
    (upTo? mark isPattern fuel rest).map fun (s, rest) => (kept ++ s, rest)
  | fuel + 1, c :: rest =>
    if c = mark then some ([], rest)
    else if c = '\n' then none
    else if c = '[' && isPattern then do
      let (set, rest) ← bracketed? .start rest
      let (s, rest) ← upTo? mark isPattern fuel rest
      return ('[' :: set ++ s, rest)
    else (upTo? mark isPattern fuel rest).map fun (s, rest) => (c :: s, rest)

/-- How many characters are left where the search for a mark that is missing ends. -/
def leftWithout (s : Text) : Nat :=
  match s.span (· ≠ '\n') with
  | (_, rest) => rest.length

/-- The text up to a mark, which has to be there. -/
def upTo (mark : Char) (isPattern : Bool) (missing : String) : Reader Text := do
  let s ← get
  match upTo? mark isPattern (s.length + 1) s with
  | some (text, rest) =>
    set rest
    return text
  | none => throw ⟨.before (leftWithout s), missing.toList⟩

/-- The text of a command that puts text in, in which backslashes quote, line feeds as well. -/
def quotedText : Nat → Text → Text × Text
  | 0, s => (s, [])
  | _ + 1, [] => (['\n'], [])
  | _ + 1, ['\\'] => (['\n'], [])
  | fuel + 1, '\\' :: rest =>
    let (c, rest) := match rest with
      | 'n' :: rest => ('\n', rest)
      | rest => (namedChar? rest).getD (rest.headD '\n', rest.tail)
    let (s, rest) := quotedText fuel rest
    (c :: s, rest)
  | fuel + 1, c :: rest =>
    if c = '\n' then (['\n'], rest)
    else
      let (s, rest) := quotedText fuel rest
      (c :: s, rest)

/-- Reads the text of a command that puts text in. -/
def insertion : Reader Text := do
  skipGaps
  match ← get with
  | [] => fail "expected \\ after \x60a\x27, \x60c\x27 or \x60i\x27"
  | ['\\'] =>
    set ([] : Text)
    return []
  | '\\' :: rest =>
    let s := match rest.dropWhile isGap with
      | '\n' :: rest => rest
      | _ => rest
    modifyGet fun _ => quotedText (s.length + 1) s
  | s => modifyGet fun _ => quotedText (s.length + 1) s

def labelName : Reader Text := do
  skipGaps
  modifyGet fun s =>
    let name := s.takeWhile fun c => !isSpace c && c ≠ ';' && c ≠ '\x7d'
    (name, s.drop name.length)

/-- The name of a file, which goes to the end of the line. -/
def filePath : Reader Text := do
  skipGaps
  let path ← restOfLine
  if path.isEmpty then fail "missing filename in r/R/w/W commands"
  return path

/-! ## Patterns -/

/-- The pattern for a text. An empty text asks for the pattern that was used last. -/
def pattern (extended folded : Bool) (s : Text) : Reader (Option Pattern) := do
  if s.isEmpty then return none
  match Regex.parse extended (nameChars (s.length + 1) s) with
  | .ok (r, groups) => return some ⟨r, groups, folded⟩
  | .error e =>
    let left := (← get).length
    throw ⟨if e = .classBrackets then .nowhere else .before left, e.message⟩

/-- The rest of a place that is a pattern between marks. -/
def patternPlace (extended : Bool) (mark : Char) : Reader Place := do
  let s ← upTo mark true "unterminated address regex"
  let flags ← modifyGet fun rest =>
    let flags := rest.takeWhile fun c => c = 'I' || c = 'M'
    (flags, rest.drop flags.length)
  return .found (← pattern extended (flags.contains 'I') s)

def place? (extended : Bool) : Reader (Option Place) := do
  match ← get with
  | '$' :: rest =>
    set rest
    return some .last
  | '/' :: rest =>
    set rest
    return some (← patternPlace extended '/')
  | '\\' :: mark :: rest =>
    set rest
    return some (← patternPlace extended mark)
  | ['\\'] =>
    set ([] : Text)
    fail "unterminated address regex"
  | _ =>
    match ← number? with
    | none => return none
    | some n =>
      match ← get with
      | '~' :: rest =>
        set rest
        return some (.every n ((← number?).getD 0))
      | _ => return some (.line n)

/-- The end of a span, after its comma. -/
def stop (extended : Bool) : Reader Stop := do
  skipGaps
  let unexpected : Reader Stop := do
    let _ ← next?
    fail "unexpected \x60,\x27"
  match ← get with
  | '+' :: rest =>
    set rest
    match ← number? with
    | some n => return .after n
    | none => unexpected
  | '~' :: rest =>
    set rest
    match ← number? with
    | some n => return .multiple n
    | none => unexpected
  | _ =>
    match ← place? extended with
    | some place => return .at place
    | none => unexpected

def Place.isZero : Place → Bool
  | .line n => n = 0
  | _ => false

/-- The lines for which a command is. -/
def address (extended : Bool) : Reader Address := do
  match ← get with
  | c :: rest =>
    if c = '+' || c = '~' then
      set rest.tail
      fail "invalid usage of +N or ~N as first address"
  | [] => pure ()
  match ← place? extended with
  | none => return .all
  | some first =>
    skipGaps
    match ← get with
    | ',' :: rest =>
      set rest
      let stop ← stop extended
      -- line 0 is there for patterns that may end a span in the first line
      match first.isZero, stop with
      | true, .at (.found _) => return .span first stop
      | true, _ => fail "invalid usage of line address 0"
      | false, _ => return .span first stop
    | _ =>
      if first.isZero then
        let _ ← next?
        fail "invalid usage of line address 0"
      return .single first

/-! ## Commands -/

/-- The parts of what replaces a match. -/
def parts : Nat → Text → List Part
  | 0, _ => []
  | _ + 1, [] => []
  | fuel + 1, '\\' :: rest =>
    match namedChar? rest, rest with
    | some (c, rest), _ => .text [c] :: parts fuel rest
    | none, c :: rest =>
      let part : Part :=
        if c.isDigit then .group (c.toNat - '0'.toNat)
        else
          match c with
          | 'U' => .casing .upper
          | 'L' => .casing .lower
          | 'E' => .casing .plain
          | 'u' => .casing .upperNext
          | 'l' => .casing .lowerNext
          | 'n' => .text ['\n']
          | c => .text [c]
      part :: parts fuel rest
    | none, [] => [.text ['\\']]
  | fuel + 1, '&' :: rest => .group 0 :: parts fuel rest
  | fuel + 1, c :: rest => .text [c] :: parts fuel rest

structure Flags where
  first : Option Nat
  all : Bool
  print : Bool
  folded : Bool
  file : Option Text
deriving Repr, DecidableEq, Inhabited

/-- Reads the flags of a replacement. The number of characters is fuel enough. -/
def flags : Nat → Flags → Reader Flags
  | 0, done => return done
  | fuel + 1, done => do
    match ← get with
    | [] => return done
    | c :: rest =>
      if c = '\x7d' || c = '#' then return done
      if c.isDigit then
        if done.first.isSome then
          set rest
          fail "multiple number options to \x60s\x27 command"
        match ← number? with
        | some 0 => fail "number option to \x60s\x27 command may not be zero"
        | n => flags fuel { done with first := n }
      else
        set rest
        match c with
        | '\n' | ';' => return done
        | 'g' =>
          if done.all then fail "multiple \x60g\x27 options to \x60s\x27 command"
          flags fuel { done with all := true }
        | 'p' =>
          if done.print then fail "multiple \x60p\x27 options to \x60s\x27 command"
          flags fuel { done with print := true }
        | 'i' | 'I' => flags fuel { done with folded := true }
        | 'm' | 'M' => flags fuel done
        | 'w' => return { done with file := some (← filePath) }
        | c => if isGap c then flags fuel done else fail "unknown option to \x60s\x27"

/-- The rest of a command that replaces matches. -/
def replacement (extended : Bool) : Reader Deed := do
  let missing := "unterminated \x60s\x27 command"
  match ← next? with
  | none => fail missing
  | some mark =>
    let source ← upTo mark true missing
    let target ← upTo mark false missing
    let f ← flags ((← get).length + 1) ⟨none, false, false, false, none⟩
    let pattern ← pattern extended f.folded source
    let parts := parts (target.length + 1) target
    let highest := parts.foldl (fun n part =>
      match part with
      | .group m => max n m
      | _ => n) 0
    if pattern.any fun p => p.groups < highest then
      let message := "invalid reference \\".toList ++ Text.ofNat highest
        ++ " on \x60s\x27 command\x27s RHS".toList
      throw ⟨.before (← get).length, message⟩
    return .replace ⟨pattern, parts, f.first.getD 1, f.all, f.print, f.file⟩

/-- A text for the command that replaces characters, without its backslashes. -/
def mapText : Text → Text
  | [] => []
  | '\\' :: '\\' :: rest => '\\' :: mapText rest
  | '\\' :: 'n' :: rest => '\n' :: mapText rest
  | c :: rest => c :: mapText rest

/-- The rest of a command that replaces characters. -/
def mapping : Reader Deed := do
  let missing := "unterminated \x60y\x27 command"
  match ← next? with
  | none => fail missing
  | some mark =>
    let source ← upTo mark false missing
    let target ← upTo mark false missing
    let source := mapText (nameChars (source.length + 1) source)
    let target := mapText (nameChars (target.length + 1) target)
    if source.length ≠ target.length then
      fail "strings for \x60y\x27 command are different lengths"
    finish
    return .map (source.zip target)

/-- A command that is its letter alone. -/
def plainDeed? : Char → Option Deed
  | '=' => some .number
  | 'd' => some .delete
  | 'D' => some .deleteLine
  | 'p' => some .print
  | 'P' => some .printLine
  | 'h' => some (.store false)
  | 'H' => some (.store true)
  | 'g' => some (.fetch false)
  | 'G' => some (.fetch true)
  | 'x' => some .swap
  | 'z' => some .clear
  | 'n' => some .next
  | 'N' => some .join
  | 'F' => some .fileName
  | _ => none

/-- A command that is a letter and a number. -/
def numberedDeed? (c : Char) (n : Option Nat) : Option Deed :=
  match c with
  | 'q' => some (.quit (n.getD 0) false)
  | 'Q' => some (.quit (n.getD 0) true)
  | 'l' => some (.show n)
  | _ => none

/-- A command that is a letter and the name of a file. -/
def fileDeed? (c : Char) (path : Text) : Option Deed :=
  match c with
  | 'r' => some (.read path)
  | 'R' => some (.readLine path)
  | 'w' => some (.write path)
  | 'W' => some (.writeLine path)
  | _ => none

/-- A command that is a letter and a text. -/
def textDeed? (c : Char) (s : Text) : Option Deed :=
  match c with
  | 'a' => some (.append s)
  | 'i' => some (.insert s)
  | 'c' => some (.change s)
  | _ => none

/-- When the jump for a letter is made. -/
def jumpCondition? : Char → Option Condition
  | 'b' => some .always
  | 't' => some .replaced
  | 'T' => some .notReplaced
  | _ => none

/-- Whether an address names more than one place. -/
def Address.isSpan : Address → Bool
  | .span .. => true
  | _ => false

/-- Whether an address is left out. -/
def Address.isAll : Address → Bool
  | .all => true
  | _ => false

def deed (extended : Bool) (address : Address) (c : Char) : Reader Deed := do
  if (numberedDeed? c none).isSome then
    if c ≠ 'l' && address.isSpan then fail "command only uses one address"
    skipGaps
    let n ← number?
    finish
    return (numberedDeed? c n).getD .nothing
  else if (fileDeed? c []).isSome then return (fileDeed? c (← filePath)).getD .nothing
  else if (textDeed? c []).isSome then return (textDeed? c (← insertion)).getD .nothing
  else
    match plainDeed? c, jumpCondition? c with
    | some deed, _ =>
      finish
      return deed
    | none, some condition =>
      let name ← labelName
      finish
      return .jump condition name
    | none, none =>
      match c with
      | 's' => replacement extended
      | 'y' => mapping
      | '\x7b' => return .open
      | 'v' =>
        let _ ← labelName
        finish
        return .nothing
      | ':' =>
        if !address.isAll then fail ": doesn\x27t want any addresses"
        let name ← labelName
        if name.isEmpty then fail "\":\" lacks a label"
        finish
        return .label name
      | c =>
        let message := "unknown command: \x60".toList ++ [c, '\'']
        throw ⟨.before (← get).length, message⟩

/-- The steps that follow, inside so many blocks. The number of characters is fuel enough. -/
def steps (extended : Bool) : Nat → Nat → Nat → Reader (List Step)
  | 0, _, _ => return []
  | fuel + 1, depth, index => do
    modify fun s => s.dropWhile fun c => isSpace c || c = ';'
    if (← get).isEmpty then
      if 0 < depth then throw ⟨.start, "unmatched \x60\x7b\x27".toList⟩
      return []
    let address ← address extended
    skipGaps
    let negated := (← get).head? = some '!'
    -- a second sign is refused, and does not undo the first one
    if negated then
      modify List.tail
      skipGaps
      if (← get).head? = some '!' then
        let _ ← next?
        fail "multiple \x60!\x27s"
    match ← next? with
    | none => fail "missing command"
    | some '#' =>
      if !address.isAll then fail "comments don\x27t accept any addresses"
      let _ ← restOfLine
      steps extended fuel depth index
    | some '\x7d' =>
      if depth = 0 then fail "unexpected \x60\x7d\x27"
      finish
      return ⟨index, .all, false, .close⟩ :: (← steps extended fuel (depth - 1) (index + 1))
    | some c =>
      let d ← deed extended address c
      let depth := if c = '\x7b' then depth + 1 else depth
      return ⟨index, address, negated, d⟩ :: (← steps extended fuel depth (index + 1))

def labels (program : List Step) : List Text :=
  program.filterMap fun step =>
    match step.deed with
    | .label name => some name
    | _ => none

def parse (extended : Bool) (s : Text) : Except ScriptError (List Step) := do
  let (program, _) ← (steps extended (s.length + 1) 0 0).run s
  let known := labels program
  let missing := program.findSome? fun step =>
    match step.deed with
    | .jump _ name => if name.isEmpty || known.contains name then none else some name
    | _ => none
  match missing with
  | some name =>
    throw ⟨.nowhere, "can\x27t find label for jump to \x60".toList ++ name ++ ['\'']⟩
  | none => return program

end Weave.Shell.Edit

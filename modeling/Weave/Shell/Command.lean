import Weave.Shell.Token
import Weave.Store

/-!
# Weave.Shell.Command — the commands of a script

Commands as a tree and their grammar over tokens: simple commands with assignments and
redirections, pipelines, lists, functions, and the compound commands `if`, `while`, `until`, `for`,
`case`, groups and subshells. A script is read one line of commands at a time, because what a line
does can come before an error on a later one.
-/

namespace Weave.Shell

/-! ## Trees -/

/-- What a redirection does to its descriptor. -/
inductive RedirectKind where
  /-- A file is read. -/
  | input
  /-- A file is written from its start. -/
  | output
  /-- A file is written from its start, also where files that exist are protected. -/
  | replace
  /-- A file is written at its end. -/
  | append
  /-- A file is read and written. -/
  | update
  /-- Another descriptor is used. -/
  | duplicate
  /-- The target itself is read. -/
  | document
deriving Repr, DecidableEq, Inhabited

/-- A redirection: what it does, the descriptor that it changes, and its target. -/
structure Redirect where
  kind : RedirectKind
  descriptor : Nat
  target : Word
deriving Repr, Inhabited

inductive Command where
  | nothing
  | simple (line : Nat) (assignments : List (Text × Word)) (words : List Word)
      (redirects : List Redirect)
  | sequence (first second : Command)
  | andThen (first second : Command)
  | orElse (first second : Command)
  | negated (command : Command)
  | pipe (source sink : Command)
  | background (command : Command)
  | choice (condition yes no : Command)
  | repeated (isUntil : Bool) (condition body : Command)
  | each (name : Text) (values : Option (List Word)) (body : Command)
  | cases (subject : Word) (branches : List (List Word × Command))
  | subshell (body : Command)
  | redirected (line : Nat) (body : Command) (redirects : List Redirect)
  | define (name : Text) (body : Command)
deriving Repr, Inhabited

/-! ## Tokens -/

/-- An error and the line that it is on. The line is 0 at the end of the script. -/
abbrev ReadError : Type :=
  Nat × SyntaxError

/-- The error that the next token is not the one that has to stand there. -/
def unexpected {α : Type} (ts : Tokens) (expected : Option Text) :
    Except ReadError α :=
  match ts with
  | (line, t) :: _ => .error (line, .unexpected (some t) expected)
  | [] => .error (0, .unexpected none expected)

/-- Whether a token is a word that stands for itself. -/
def isWord (text : String) : Token → Bool
  | .word w _ => plainText? w = some text.toList
  | _ => false

def isOperator (symbol : String) : Token → Bool
  | .operator s none => s = symbol.toList
  | _ => false

/-- What follows a reserved word. -/
def skipWord? (text : String) : Tokens → Option Tokens
  | (_, t) :: ts => if isWord text t then some ts else none
  | [] => none

/-- What follows an operator. -/
def skipOperator? (symbol : String) : Tokens → Option Tokens
  | (_, t) :: ts => if isOperator symbol t then some ts else none
  | [] => none

/-- What follows a reserved word, which has to be there. -/
def expectWord (text : String) (ts : Tokens) : Except ReadError Tokens :=
  match skipWord? text ts with
  | some ts => .ok ts
  | none => unexpected ts (some text.toList)

/-- What follows an operator, which has to be there. -/
def expectOperator (symbol : String) (ts : Tokens) : Except ReadError Tokens :=
  match skipOperator? symbol ts with
  | some ts => .ok ts
  | none => unexpected ts (some symbol.toList)

/-- The closing parenthesis of a function, where no word is a reserved one. -/
def expectParenthesis (ts : Tokens) : Except ReadError Tokens :=
  match ts with
  | (line, .word _ leads) :: rest => unexpected ((line, .word [] leads) :: rest) (some [')'])
  | ts => expectOperator ")" ts

/-- What follows line ends. -/
def skipNewlines : Tokens → Tokens
  | (_, .newline) :: ts => skipNewlines ts
  | ts => ts

/-- The words that end a list of commands and cannot start a command. -/
def closingWords : List String :=
  ["then", "elif", "else", "fi", "do", "done", "esac", "\x7d"]

/-- Whether a list of commands ends here. -/
def atListEnd : Tokens → Bool
  | [] => true
  | (_, t) :: _ =>
    closingWords.any (isWord · t) || isOperator ")" t || isOperator ";;" t

/-! ## Simple commands -/

/-- A word of the form of an assignment: its name and the word of its value. -/
def assignment? (word : Word) : Option (Text × Word) :=
  let leading := word.takeWhile fun part =>
    match part with
    | .literal [c] false => isNameChar c
    | _ => false
  let name := literalText leading
  match word.drop leading.length with
  | .literal ['='] false :: value => if isName name then some (name, value) else none
  | _ => none

/-- What an operator does to its descriptor. -/
def RedirectKind.ofSymbol (symbol : Text) : RedirectKind :=
  match symbol with
  | ['<'] => .input
  | ['>', '>'] => .append
  | ['<', '>'] => .update
  | ['>', '&'] => .duplicate
  | ['<', '&'] => .duplicate
  | ['>', '|'] => .replace
  | _ => .output

/-- The descriptor that an operator redirects where no number stands in front. -/
def usualDescriptor (symbol : Text) : Nat :=
  if symbol.head? = some '<' then 0 else 1

def readRedirect? : Tokens → Option (Except ReadError (Redirect × Tokens))
  | (_, .document body descriptor) :: ts =>
    some (.ok (⟨.document, descriptor.getD 0, body⟩, ts))
  | (_, .operator symbol descriptor) :: ts =>
    if isRedirection symbol then
      match ts with
      | (_, .word target _) :: ts =>
        some (.ok (⟨.ofSymbol symbol, descriptor.getD (usualDescriptor symbol), target⟩, ts))
      | ts => some (unexpected ts none)
    else none
  | _ => none

/-- The redirections at the start of the tokens. The number of tokens is fuel enough. -/
def readRedirects : Nat → Tokens → Except ReadError (List Redirect × Tokens)
  | 0, ts => .ok ([], ts)
  | fuel + 1, ts =>
    match readRedirect? ts with
    | none => .ok ([], ts)
    | some read => do
      let (r, ts) ← read
      let (rs, ts) ← readRedirects fuel ts
      return (r :: rs, ts)

/-- The words and redirections of a simple command. The number of tokens is fuel enough. -/
def readWords : Nat → Tokens → Except ReadError ((List Word × List Redirect) × Tokens)
  | 0, ts => .ok (([], []), ts)
  | fuel + 1, ts =>
    match readRedirect? ts with
    | some read => do
      let (r, ts) ← read
      let ((ws, rs), ts) ← readWords fuel ts
      return ((ws, r :: rs), ts)
    | none =>
      match ts with
      | (_, .word w _) :: ts => do
        let ((ws, rs), ts) ← readWords fuel ts
        return ((w :: ws, rs), ts)
      | ts => .ok (([], []), ts)

/-- The assignments that words begin with, and the other words. -/
def splitAssignments : List Word → List (Text × Word) × List Word
  | [] => ([], [])
  | w :: ws =>
    match assignment? w with
    | some a =>
      let (as, ws) := splitAssignments ws
      (a :: as, ws)
    | none => ([], w :: ws)

def firstLine (ts : Tokens) : Nat :=
  (ts.head?.map Prod.fst).getD 0

def readSimple (ts : Tokens) : Except ReadError (Command × Tokens) := do
  let ((words, redirects), rest) ← readWords ts.length ts
  if words.isEmpty && redirects.isEmpty then unexpected ts none
  let (assignments, words) := splitAssignments words
  return (.simple (firstLine ts) assignments words redirects, rest)

/-- The words up to the end of a line, which are the values of a loop. -/
def readValues : Tokens → List Word × Tokens
  | (_, .word w _) :: ts =>
    let (ws, ts) := readValues ts
    (w :: ws, ts)
  | ts => ([], ts)

/-- The values of a loop, if there are any, up to its body. -/
def readLoopValues (ts : Tokens) : Except ReadError (Option (List Word) × Tokens) :=
  match skipWord? "in" (skipNewlines ts) with
  | some ts => do
    let (values, ts) := readValues ts
    match ts with
    | (_, .newline) :: ts => return (some values, skipNewlines ts)
    | ts =>
      match skipOperator? ";" ts with
      | some ts => return (some values, skipNewlines ts)
      | none => unexpected ts none
  | none => .ok (none, skipNewlines ((skipOperator? ";" ts).getD ts))

/-- The patterns of a branch, separated by bars, up to the parenthesis. -/
def readPatterns : Tokens → Except ReadError (List Word × Tokens)
  | (_, .word w _) :: (line, .operator symbol none) :: ts =>
    if symbol = [')'] then .ok ([w], ts)
    else if symbol = ['|'] then do
      let (ws, ts) ← readPatterns ts
      return (w :: ws, ts)
    else unexpected ((line, .operator symbol none) :: ts) (some [')'])
  | (_, .word _ _) :: ts => unexpected ts (some [')'])
  | [] => unexpected [] (some [')'])
  | ts => unexpected ts none

/-! ## The grammar -/

mutual

/-- Commands separated by semicolons, ampersands and line ends. Fuel goes down by one from one
reader to the next. -/
def readList : Nat → Tokens → Except ReadError (Command × Tokens)
  | 0, ts => unexpected ts none
  | fuel + 1, ts =>
    match skipNewlines ts with
    | [] => .ok (.nothing, [])
    | ts => do
      let (first, ts) ← readAndOr fuel ts
      readListRest fuel first ts

def readListRest : Nat → Command → Tokens → Except ReadError (Command × Tokens)
  | 0, _, ts => unexpected ts none
  | fuel + 1, first, ts =>
    let (first, rest) := match skipOperator? "&" ts with
      | some rest => (Command.background first, rest)
      | none => (first, (skipOperator? ";" ts).getD ts)
    let next := skipNewlines rest
    if next.length = ts.length || atListEnd next then .ok (first, next)
    else do
      let (second, ts) ← readList fuel next
      return (.sequence first second, ts)

/-- Commands up to the end of the line, where the script may go on. -/
def readLine : Nat → Tokens → Except ReadError (Command × Tokens)
  | 0, ts => unexpected ts none
  | fuel + 1, ts => do
    let (first, ts) ← readAndOr fuel ts
    let (first, rest) := match skipOperator? "&" ts with
      | some rest => (Command.background first, rest)
      | none => (first, (skipOperator? ";" ts).getD ts)
    match rest with
    | [] => return (first, [])
    | (line, .newline) :: rest => return (first, (line, .newline) :: rest)
    | rest =>
      if rest.length = ts.length then unexpected ts none
      let (second, ts) ← readLine fuel rest
      return (.sequence first second, ts)

/-- Pipelines joined by `&&` and `||`. -/
def readAndOr : Nat → Tokens → Except ReadError (Command × Tokens)
  | 0, ts => unexpected ts none
  | fuel + 1, ts => do
    let (first, ts) ← readPipeline fuel ts
    readAndOrRest fuel first ts

/-- What follows a pipeline in a list joined by `&&` and `||`. -/
def readAndOrRest : Nat → Command → Tokens → Except ReadError (Command × Tokens)
  | 0, _, ts => unexpected ts none
  | fuel + 1, first, ts =>
    match skipOperator? "&&" ts with
    | some ts => do
      let (second, ts) ← readPipeline fuel (skipNewlines ts)
      readAndOrRest fuel (.andThen first second) ts
    | none =>
      match skipOperator? "||" ts with
      | some ts => do
        let (second, ts) ← readPipeline fuel (skipNewlines ts)
        readAndOrRest fuel (.orElse first second) ts
      | none => .ok (first, ts)

/-- Commands joined by bars, perhaps negated. -/
def readPipeline : Nat → Tokens → Except ReadError (Command × Tokens)
  | 0, ts => unexpected ts none
  | fuel + 1, ts =>
    match skipWord? "!" ts with
    | some ts => do
      let (command, ts) ← readPipeline fuel ts
      return (.negated command, ts)
    | none => do
      let (source, ts) ← readCommand fuel ts
      match skipOperator? "|" ts with
      | some ts =>
        let (sink, ts) ← readPipeline fuel (skipNewlines ts)
        return (.pipe source sink, ts)
      | none => return (source, ts)

/-- A simple or a compound command with its redirections, or a function. -/
def readCommand : Nat → Tokens → Except ReadError (Command × Tokens)
  | 0, ts => unexpected ts none
  | fuel + 1, ts =>
    match readCompound fuel ts with
    | some read => do
      let (command, rest) ← read
      let (redirects, rest) ← readRedirects rest.length rest
      return (if redirects.isEmpty then command
        else .redirected (firstLine ts) command redirects, rest)
    | none =>
      match ts with
      | (line, .word name _) :: (_, .operator ['('] none) :: rest => do
        if (assignment? name).isSome then return ← readSimple ts
        let rest ← expectParenthesis rest
        match (plainText? name).filter isName with
        | none => throw (line, .badFunctionName)
        | some name =>
          let (body, rest) ← readCommand fuel (skipNewlines rest)
          return (.define name body, rest)
      | ts => if atListEnd ts then unexpected ts none else readSimple ts

/-- A compound command, if the tokens start with one. -/
def readCompound : Nat → Tokens → Option (Except ReadError (Command × Tokens))
  | 0, ts => some (unexpected ts none)
  | fuel + 1, ts =>
    match skipWord? "if" ts, skipWord? "while" ts, skipWord? "until" ts, skipWord? "for" ts,
      skipWord? "case" ts, skipWord? "\x7b" ts, skipOperator? "(" ts with
    | some ts, _, _, _, _, _, _ => some (readIf fuel ts)
    | _, some ts, _, _, _, _, _ => some (readLoop fuel false ts)
    | _, _, some ts, _, _, _, _ => some (readLoop fuel true ts)
    | _, _, _, some ts, _, _, _ => some (readFor fuel ts)
    | _, _, _, _, some ts, _, _ => some (readCase fuel ts)
    | _, _, _, _, _, some ts, _ => some do
      let (body, ts) ← readList fuel ts
      return (body, ← expectWord "\x7d" ts)
    | _, _, _, _, _, _, some ts => some do
      let (body, ts) ← readList fuel ts
      return (.subshell body, ← expectOperator ")" ts)
    | _, _, _, _, _, _, _ => none

/-- The rest of a condition after `if` or `elif`. -/
def readIf : Nat → Tokens → Except ReadError (Command × Tokens)
  | 0, ts => unexpected ts none
  | fuel + 1, ts => do
    let (condition, ts) ← readList fuel ts
    let (yes, ts) ← readList fuel (← expectWord "then" ts)
    match skipWord? "elif" ts, skipWord? "else" ts with
    | some ts, _ =>
      let (no, ts) ← readIf fuel ts
      return (.choice condition yes no, ts)
    | _, some ts =>
      let (no, ts) ← readList fuel ts
      return (.choice condition yes no, ← expectWord "fi" ts)
    | none, none => return (.choice condition yes .nothing, ← expectWord "fi" ts)

/-- The rest of a loop after `while` or `until`. -/
def readLoop : Nat → Bool → Tokens → Except ReadError (Command × Tokens)
  | 0, _, ts => unexpected ts none
  | fuel + 1, isUntil, ts => do
    let (condition, ts) ← readList fuel ts
    let (body, ts) ← readList fuel (← expectWord "do" ts)
    return (.repeated isUntil condition body, ← expectWord "done" ts)

/-- The rest of a loop over values after `for`. -/
def readFor : Nat → Tokens → Except ReadError (Command × Tokens)
  | 0, ts => unexpected ts none
  | fuel + 1, ts =>
    match ts with
    | (line, .word w _) :: ts => do
      let some name := (plainText? w).filter isName | throw (line, .badLoopVariable)
      let (values, ts) ← readLoopValues ts
      let (body, ts) ← readList fuel (← expectWord "do" ts)
      return (.each name values body, ← expectWord "done" ts)
    | ts => .error (firstLine ts, .badLoopVariable)

/-- The rest of a choice among patterns after `case`. -/
def readCase : Nat → Tokens → Except ReadError (Command × Tokens)
  | 0, ts => unexpected ts none
  | fuel + 1, ts =>
    match ts with
    | (_, .word subject _) :: ts => do
      let ts ← expectWord "in" (skipNewlines ts)
      let (branches, ts) ← readBranches fuel (skipNewlines ts)
      return (.cases subject branches, ts)
    | ts => unexpected ts none

/-- The branches of a choice up to `esac`. -/
def readBranches : Nat → Tokens → Except ReadError (List (List Word × Command) × Tokens)
  | 0, ts => unexpected ts none
  | fuel + 1, ts =>
    match skipWord? "esac" ts with
    | some ts => .ok ([], ts)
    | none => do
      let (patterns, ts) ← readPatterns ((skipOperator? "(" ts).getD ts)
      let (body, ts) ← if atListEnd (skipNewlines ts) then pure (.nothing, skipNewlines ts)
        else readList fuel ts
      match skipOperator? ";;" ts with
      | some ts =>
        let (branches, ts) ← readBranches fuel (skipNewlines ts)
        return ((patterns, body) :: branches, ts)
      | none => return ([(patterns, body)], ← expectWord "esac" ts)

end

/-! ## Aliases -/

/-- The tokens with the words that leads a command and has another meaning replaced. A meaning is
not looked for in itself. Each step takes a token or a meaning. -/
def replaceAliases : Nat → Store Text Text → Tokens → Tokens
  | 0, _, ts => ts
  | _ + 1, _, [] => []
  | fuel + 1, aliases, (line, .word w true) :: ts =>
    match plainText? w with
    | none => (line, .word w true) :: replaceAliases fuel aliases ts
    | some name =>
      match aliases.get? name with
      | none => (line, .word w true) :: replaceAliases fuel aliases ts
      | some meaning =>
        replaceAliases fuel (aliases.erase name) (scanScript line meaning).tokens
          ++ replaceAliases fuel aliases ts
  | fuel + 1, aliases, t :: ts => t :: replaceAliases fuel aliases ts

/-- The tokens as the grammar reads them. -/
def withAliases (aliases : Store Text Text) (ts : Tokens) : Tokens :=
  if aliases.size = 0 then ts else replaceAliases (ts.length + aliases.size + 1) aliases ts

/-- The number of lines that end among tokens. -/
def lineEnds (ts : Tokens) : Nat :=
  ts.countP fun (_, t) =>
    match t with
    | .newline => true
    | _ => false

/-- The end of tokens, from a line end on, in which as many lines end as among other tokens. -/
def leftLike (others : Tokens) : Tokens → Tokens
  | [] => []
  | t :: ts =>
    match t with
    | (_, .newline) => if lineEnds (t :: ts) ≤ lineEnds others then t :: ts else leftLike others ts
    | _ => leftLike others ts

/-! ## Scripts in words -/

/-- Fuel for readers: between two tokens that are taken a reader calls at most seven others. -/
def readFuel (ts : Tokens) : Nat :=
  7 * ts.length + 7

/-- The commands of a script in a word, which begins on a line. They are read all at once. A loose
script may go on after them. -/
def readInner (aliases : Store Text Text) (line : Nat) (script : Text) (loose : Bool) :
    Except ReadError Command := do
  let scanned := scanScript line script
  scanned.error.forM throw
  let last := line + script.count '\n'
  let closing := if loose then [] else [(last, Token.operator [')'] none)]
  let ts := skipNewlines (withAliases aliases scanned.tokens ++ closing)
  let (command, rest) ← if atListEnd ts then pure (.nothing, ts)
    else (readList (readFuel ts) ts).mapError fun (n, e) => (if n = 0 then last else n, e)
  if !loose then
    let _ ← expectOperator ")" rest
  return command

/-- The most scripts inside one another whose grammar is looked at before they run. -/
def maxNesting : Nat := 100

/-- Looks at the grammar of the scripts in a word, so that nothing runs if it is wrong. -/
def checkWord (aliases : Store Text Text) : Nat → Word → Except ReadError Unit
  | 0, _ => .ok ()
  | fuel + 1, word => word.forM fun part =>
    match part with
    | .param _ _ argument _ => checkWord aliases fuel argument
    | .sum expression _ => checkWord aliases fuel expression
    | .output line script loose _ => do
      let _ ← readInner aliases line script loose
      (scanScript line script).tokens.forM fun (_, t) =>
        match t with
        | .word w _ => checkWord aliases fuel w
        | .document w _ => checkWord aliases fuel w
        | _ => .ok ()
    | _ => .ok ()

/-- Looks at the grammar of the scripts in the words among tokens. -/
def checkTokens (aliases : Store Text Text) (ts : Tokens) : Except ReadError Unit :=
  ts.forM fun (_, t) =>
    match t with
    | .word w _ => checkWord aliases maxNesting w
    | .document w _ => checkWord aliases maxNesting w
    | _ => .ok ()

/-! ## Scripts -/

/-- What is left of a script: its tokens, and why there are no more of them. -/
structure Script where
  tokens : Tokens
  error : Option ReadError
  /-- The line on which the script ends. -/
  lastLine : Nat
deriving Inhabited

namespace Script

/-- The script of a text that begins on a line. -/
def ofText (line : Nat) (s : Text) : Script :=
  let scanned := scanScript line s
  ⟨scanned.tokens, scanned.error, line + s.count '\n'⟩

/-- The number of the line up to which a script was read. -/
def line (script : Script) : Nat :=
  match script.tokens with
  | (line, _) :: _ => line - 1
  | [] => script.lastLine

/-- The next line of commands and the rest of the script. Nothing is left at its end. -/
def next? (aliases : Store Text Text) (script : Script) :
    Except ReadError (Option (Command × Script)) :=
  let ts := withAliases aliases (skipNewlines script.tokens)
  match ts, script.error with
  | [], some e => .error e
  | [], none => .ok none
  | ts, _ =>
    match readLine (readFuel ts) ts, script.error with
    -- where the tokens end too early, the reason is why there are no more
    | .ok (_, []), some e => .error e
    | .error (0, e), _ => .error (script.error.getD (script.lastLine, e))
    | .ok (command, rest), _ => do
      checkTokens aliases (ts.take (ts.length - rest.length))
      -- the lines that follow may be read with other aliases
      let left := if aliases.size = 0 then rest else leftLike rest script.tokens
      return some (command, { script with tokens := left })
    | .error e, _ => .error e

end Script

end Weave.Shell

import Weave.Shell.Word

/-!
# Weave.Shell.Token — the tokens of a script

How a script is cut into tokens. The words of a script can hold other scripts, so that words and
tokens are read together. A here-document stands after the line on which it is announced: reading
the tokens after the announcement gives its text back.
-/

namespace Weave.Shell

/-! ## Characters -/

/-- Characters that end a word. -/
def isMeta (c : Char) : Bool :=
  " \t\n;&|<>()".toList.contains c

def isNameStart (c : Char) : Bool :=
  c.isAlpha || c = '_'

def isNameChar (c : Char) : Bool :=
  c.isAlphanum || c = '_'

def isName (s : Text) : Bool :=
  s.head?.any isNameStart && s.all isNameChar

/-- Parameters whose name is one character that is no letter. -/
def isSpecialParam (c : Char) : Bool :=
  "@*#?$!-".toList.contains c

/-- The number of the line after what was read of a text that begins on a line. -/
def lineAfter (line : Nat) (s rest : Text) : Nat :=
  line + (s.take (s.length - rest.length)).count '\n'

/-! ## Parameters -/

/-- What is done with a parameter inside braces, by the characters after its name. -/
def readOp? : Text → Option (ParamOp × Text)
  | '#' :: '#' :: rest => some (.dropFront true, rest)
  | '#' :: rest => some (.dropFront false, rest)
  | '%' :: '%' :: rest => some (.dropBack true, rest)
  | '%' :: rest => some (.dropBack false, rest)
  | ':' :: '-' :: rest => some (.default true, rest)
  | '-' :: rest => some (.default false, rest)
  | ':' :: '+' :: rest => some (.alternative true, rest)
  | '+' :: rest => some (.alternative false, rest)
  | ':' :: '=' :: rest => some (.assigned true, rest)
  | '=' :: rest => some (.assigned false, rest)
  | ':' :: '?' :: rest => some (.required true, rest)
  | '?' :: rest => some (.required false, rest)
  | '\x7d' :: rest => some (.value, '\x7d' :: rest)
  | _ => none

/-- The name of a parameter at the start of a text. -/
def readParamName? : Text → Option (Text × Text)
  | [] => none
  | c :: rest =>
    if isNameStart c then
      some (c :: rest.takeWhile isNameChar, rest.dropWhile isNameChar)
    else if c.isDigit then some (c :: rest.takeWhile Char.isDigit, rest.dropWhile Char.isDigit)
    else if isSpecialParam c then some ([c], rest)
    else none

/-- The parameter whose length is asked for, if the text after an opening brace asks for one. -/
def readLength? : Text → Option (Text × Text)
  | '#' :: rest =>
    match readParamName? rest with
    | some (name, '\x7d' :: rest) => some (name, rest)
    | _ => none
  | _ => none

/-! ## Where words stop -/

/-- Where the reading of parts stops. -/
inductive Stop where
  /-- At a character that ends a word. -/
  | wordEnd
  /-- At a double quote, which is taken. -/
  | quote
  /-- At a closing brace, which is taken. -/
  | brace (quoted : Bool)
  /-- At two closing parentheses, which are taken. So many others are to be closed before. -/
  | sum (depth : Nat)
  /-- At the end of the text. -/
  | textEnd
deriving Repr, DecidableEq, Inhabited

namespace Stop

/-- Whether parts are read as inside double quotes. -/
def isQuoted : Stop → Bool
  | .wordEnd => false
  | .brace quoted => quoted
  | _ => true

/-- Whether a backslash takes the meaning of a character away. -/
def isEscaped (stop : Stop) (c : Char) : Bool :=
  match stop with
  | .wordEnd => true
  | .brace false => true
  | .quote => "$\x60\"\\".toList.contains c
  | .textEnd => "$\x60\\".toList.contains c
  | _ => "$\x60\"\\\x7d".toList.contains c

/-- The error if a text ends before the reading of parts stops. -/
def error : Stop → SyntaxError
  | .brace _ => .openBrace
  | .sum _ => .openSum
  | _ => .openQuote

end Stop

/-- The script between backquotes and what follows, given after the opening one. -/
def splitBackquoted (quoted : Bool) : Text → Except SyntaxError (Text × Text)
  | [] => .error .openBackquote
  | '\\' :: c :: rest => do
    let (s, rest) ← splitBackquoted quoted rest
    let bare := c = '\x60' || c = '\\' || c = '$' || (quoted && c = '"')
    return (if bare then (c :: s, rest) else ('\\' :: c :: s, rest))
  | c :: rest =>
    if c = '\x60' then .ok ([], rest)
    else do
      let (s, rest) ← splitBackquoted quoted rest
      return (c :: s, rest)

/-- The parts between double quotes, which make a field even if they are empty. Only all arguments
together can be no field. -/
def quotedParts (parts : List Part) : List Part :=
  match parts with
  | [.param ['@'] op argument quoted] => [.param ['@'] op argument quoted]
  | parts => .literal [] true :: parts

/-! ## Here-documents -/

/-- How a here-document was announced. -/
structure Announced where
  /-- The line that ends it. -/
  delimiter : Text
  /-- Whether nothing in it is replaced. -/
  quoted : Bool
  /-- Whether tabs at the starts of its lines go. -/
  stripped : Bool
deriving Repr, DecidableEq, Inhabited

namespace Announced

/-- A line of a here-document without the tabs that go. -/
def strip (a : Announced) (line : Text) : Text :=
  if a.stripped then line.dropWhile (· = '\t') else line

/-- The text of a here-document and what follows it, given as lines. -/
def split (a : Announced) : List Text → Text × List Text
  | [] => ([], [])
  | l :: ls =>
    let line := a.strip l
    if Text.stripLast '\n' line = a.delimiter then ([], ls)
    else
      let (body, rest) := split a ls
      (line ++ body, rest)

/-- The texts of several here-documents that follow one another, and what follows them. -/
def splitAll : List Announced → Text → List (Announced × Text) × Text
  | [], s => ([], s)
  | a :: more, s =>
    let (body, rest) := a.split (Text.lines s)
    let (bodies, rest) := splitAll more rest.flatten
    ((a, body) :: bodies, rest)

end Announced

/-! ## Operators -/

/-- The operators, longer ones before those that they begin with. -/
def operators : List Text :=
  ["&&", "||", ";;", "<<-", "<<", ">>", ">&", "<&", ">|", "<>", ";", "&", "|", "(", ")", "<",
   ">"].map String.toList

/-- Whether an operator is a redirection. -/
def isRedirection (symbol : Text) : Bool :=
  symbol.any fun c => c = '<' || c = '>'

/-- Whether an operator announces a here-document. -/
def announces (symbol : Text) : Bool :=
  symbol = ['<', '<'] || symbol = ['<', '<', '-']

def operator? (s : Text) : Option (Text × Text) :=
  operators.findSome? fun symbol => (Text.after? symbol s).map (symbol, ·)

/-- The operator at the start of a text. Before a redirection there may be a number. -/
def numberedOperator? (s : Text) : Option (Text × Option Nat × Text) :=
  let digits := s.takeWhile Char.isDigit
  match operator? (s.drop digits.length) with
  | some (symbol, rest) =>
    if digits.isEmpty then some (symbol, none, rest)
    else if isRedirection symbol then some (symbol, some (Text.toNat digits), rest)
    else none
  | none => none

/-! ## Scanning -/

/-- What is open while tokens are read. -/
inductive Nest where
  | paren
  /-- A choice among patterns, each of which ends in a parenthesis that nothing opens. -/
  | choice
deriving Repr, DecidableEq, Inhabited

/-- What is known while tokens are read. -/
structure Scan where
  line : Nat
  /-- Whether a command can begin here. -/
  leads : Bool
  /-- What is open, the innermost first. -/
  nests : List Nest
  /-- Whether the tokens are those of a script inside a word. -/
  inner : Bool
  /-- The here-documents that begin with the next line. -/
  announced : List Announced
deriving Inhabited

structure Scanned where
  tokens : Tokens
  /-- The here-documents that were announced before. -/
  bodies : List Word
  rest : Text
  /-- Why reading broke off, and on which line. -/
  error : Option (Nat × SyntaxError)
deriving Inhabited

namespace Scanned

/-- Nothing more could be read. -/
def broken (line : Nat) (e : SyntaxError) : Scanned :=
  ⟨[], [], [], some (line, e)⟩

/-- What was read after a token. -/
def after (scanned : Scanned) (line : Nat) (token : Token) : Scanned :=
  { scanned with tokens := (line, token) :: scanned.tokens }

/-- What was read after the announcement of a here-document, whose body is the last that came
back. -/
def afterDocument (scanned : Scanned) (line : Nat) (descriptor : Option Nat) : Scanned :=
  let body := scanned.bodies.getLast?.getD []
  { scanned.after line (.document body descriptor) with bodies := scanned.bodies.dropLast }

end Scanned

/-- Words after which a command can begin. -/
def openingWords : List Text :=
  ["!", "do", "elif", "else", "if", "then", "until", "while", "\x7b"].map String.toList

namespace Scan

/-- What is known after a word. -/
def afterWord (scan : Scan) (word : Word) (line : Nat) : Scan :=
  let scan := { scan with line := line }
  match if scan.leads then plainText? word else none with
  | none => { scan with leads := false }
  | some s =>
    if s = "case".toList then { scan with leads := false, nests := .choice :: scan.nests }
    else if s = "esac".toList then
      { scan with nests := if scan.nests.head? = some .choice then scan.nests.tail else scan.nests }
    else { scan with leads := openingWords.contains s }

/-- What is known after an operator. Nothing if the script in a word ends with it. -/
def afterOperator? (scan : Scan) (symbol : Text) : Option Scan :=
  if symbol = ['('] then some { scan with leads := true, nests := .paren :: scan.nests }
  else if symbol = [')'] then
    match scan.nests with
    | .paren :: nests => some { scan with leads := true, nests := nests }
    | .choice :: _ => some { scan with leads := true }
    | [] => if scan.inner then none else some { scan with leads := true }
  else some { scan with leads := !isRedirection symbol }

end Scan

mutual

/-- Reads parts up to where they stop. Each step takes a character or one unit of fuel. -/
def readParts : Nat → Nat → Stop → Text → Except SyntaxError (Word × Text)
  | 0, _, _, _ => .error .openQuote
  | _ + 1, _, stop, [] =>
    if stop = .wordEnd || stop = .textEnd then .ok ([], []) else .error stop.error
  | fuel + 1, line, stop, c :: rest =>
    let quoted := stop.isQuoted
    let andThen := fun (stop : Stop) (part : Part) (rest : Text) => do
      let (parts, rest) ← readParts fuel (lineAfter line (c :: rest) rest) stop rest
      return (part :: parts, rest)
    let keep := fun (stop : Stop) => andThen stop (.literal [c] quoted) rest
    match stop, c, rest with
    -- what ends the parts
    | .quote, '"', _ => .ok ([], rest)
    | .brace _, '\x7d', _ => .ok ([], rest)
    | .sum 0, ')', ')' :: rest => .ok ([], rest)
    | .sum 0, ')', _ => .error .openSum
    -- parentheses in sums
    | .sum (depth + 1), ')', _ => keep (.sum depth)
    | .sum depth, '(', _ => keep (.sum (depth + 1))
    -- quotes inside of quotes
    | .brace true, '"', _ => readParts fuel line stop rest
    | .sum _, '"', _ => readParts fuel line stop rest
    | .textEnd, '"', _ => keep stop
    -- quotes
    | _, '\\', [] => andThen stop (.literal ['\\'] true) []
    | _, '\\', '\n' :: rest => readParts fuel (line + 1) stop rest
    | _, '\\', e :: rest =>
      andThen stop (.literal (if stop.isEscaped e then [e] else ['\\', e]) true) rest
    | _, '"', _ => do
      let (parts, after) ← readParts fuel line .quote rest
      let (more, after) ← readParts fuel (lineAfter line rest after) stop after
      return (quotedParts parts ++ more, after)
    | _, '\'', _ =>
      let inside := rest.takeWhile (· ≠ '\'')
      if quoted then keep stop
      else if inside.length = rest.length then .error .openQuote
      else andThen stop (.literal inside true) (rest.drop (inside.length + 1))
    -- values
    | _, '\x60', _ => do
      let (script, after) ← splitBackquoted (stop = .quote) rest
      andThen stop (.output 1 script true quoted) after
    | _, '$', _ => do
      let (part, after) ← readDollar fuel line quoted rest
      andThen stop part after
    | _, _, _ =>
      if stop = .wordEnd && isMeta c then .ok ([], c :: rest) else keep stop

def readDollar : Nat → Nat → Bool → Text → Except SyntaxError (Part × Text)
  | 0, _, _, _ => .error .openQuote
  | fuel + 1, line, quoted, s =>
    match s with
    | '(' :: '(' :: rest => do
      let (expression, rest) ← readParts fuel line (.sum 0) rest
      return (.sum expression quoted, rest)
    | '(' :: rest =>
      let scanned := scanTokens fuel ⟨line, true, [], true, []⟩ rest
      match scanned.error with
      | some (_, e) => .error e
      | none =>
        -- the script is kept as a text, and read when it is run
        let script := rest.take (rest.length - scanned.rest.length - 1)
        .ok (.output line script false quoted, scanned.rest)
    | '\x7b' :: rest => readBraced fuel line quoted rest
    | c :: rest =>
      if c.isDigit then .ok (.param [c] .value [] quoted, rest)
      else
        match readParamName? (c :: rest) with
        | some (name, rest) => .ok (.param name .value [] quoted, rest)
        | none => .ok (.literal ['$'] quoted, c :: rest)
    | [] => .ok (.literal ['$'] quoted, [])

/-- Reads a parameter in braces after the opening one. -/
def readBraced : Nat → Nat → Bool → Text → Except SyntaxError (Part × Text)
  | 0, _, _, _ => .error .openBrace
  | fuel + 1, line, quoted, s =>
    match readLength? s with
    | some (name, rest) => .ok (.param name .length [] quoted, rest)
    | none =>
      match (readParamName? s).bind fun (name, rest) => (readOp? rest).map (name, ·) with
      | some (name, op, rest) => do
        let (argument, rest) ← readParts fuel line (.brace (quoted && !op.takesPattern)) rest
        return (.param name op argument quoted, rest)
      | none => do
        let (_, rest) ← readParts fuel line (.brace quoted) s
        return (.malformed, rest)

/-- Reads tokens up to the end of a script, or up to the parenthesis after a script in a word. -/
def scanTokens : Nat → Scan → Text → Scanned
  | 0, scan, _ => .broken scan.line .openQuote
  | fuel + 1, scan, s =>
    let line := scan.line
    match s with
    | [] =>
      if scan.inner then .broken line (.unexpected none (some [')']))
      else ⟨[], scan.announced.map fun _ => [], [], none⟩
    | '\\' :: '\n' :: rest => scanTokens fuel { scan with line := line + 1 } rest
    -- the documents that were announced begin below
    | '\n' :: rest =>
      let (documents, after) := Announced.splitAll scan.announced rest
      let next := lineAfter (line + 1) rest after
      match readDocuments fuel (line + 1) documents with
      | .error e => .broken line e
      | .ok bodies =>
        let scanned := scanTokens fuel { scan with line := next, leads := true, announced := [] }
          after
        { scanned.after next .newline with bodies := bodies }
    | c :: rest =>
      if c = ' ' || c = '\t' then scanTokens fuel scan rest
      else if c = '#' then scanTokens fuel scan (rest.dropWhile (· ≠ '\n'))
      else
        match numberedOperator? s with
        | some (symbol, descriptor, after) =>
          -- the word behind the operator is the line that ends the document
          if announces symbol then
            match readParts fuel line .wordEnd (after.dropWhile fun c => c = ' ' || c = '\t') with
            | .error e => .broken line e
            | .ok (word, after) =>
              let a : Announced := ⟨literalText word, hasQuotes word, symbol.length = 3⟩
              let scan := { scan with announced := scan.announced ++ [a] }
              (scanTokens fuel scan after).afterDocument line descriptor
          else
            match scan.afterOperator? symbol with
            | none => ⟨[], scan.announced.map fun _ => [], after, none⟩
            | some scan =>
              (scanTokens fuel scan after).after line (.operator symbol descriptor)
        | none =>
          match readParts fuel line .wordEnd s with
          | .error e => .broken line e
          | .ok (word, after) =>
            (scanTokens fuel (scan.afterWord word (lineAfter line s after)) after).after line
              (.word word scan.leads)

def readDocuments : Nat → Nat → List (Announced × Text) → Except SyntaxError (List Word)
  | 0, _, _ => .error .openQuote
  | _ + 1, _, [] => .ok []
  | fuel + 1, line, (a, body) :: rest => do
    let word ← if a.quoted then pure [.literal body true] else
      (readParts fuel line .textEnd body).map Prod.fst
    return word :: (← readDocuments fuel (line + 1 + body.count '\n') rest)

end

/-- The tokens of a script that begins on a line. Between two characters that are taken a reader
calls at most four others. -/
def scanScript (line : Nat) (script : Text) : Scanned :=
  scanTokens (4 * script.length + 4) ⟨line, true, [], false, []⟩ script

end Weave.Shell

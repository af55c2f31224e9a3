import Weave.Toml.Literal

/-!
# Weave.Toml.Document — configuration texts

A configuration text is a sequence of lines, each of which is blank, gives a value to a key, or is
the header of a table. Comments may stand at the end of every line. `ofText?` reads such a text as
one table.
-/

namespace Weave.Toml

/-! ## Blanks and comments -/

/-- What follows a comment at the start of a text; where there is none, the text itself. -/
def afterComment (s : Text) : Except Error Text :=
  match s with
  | '#' :: comment =>
    let body := comment.takeWhile fun c => c ≠ '\n' && c ≠ '\r'
    if body.any isControl then .error .malformed else .ok (comment.drop body.length)
  | s => .ok s

/-- What follows blanks, line terminators and comments. Each step takes a character. -/
def afterTrivia : Nat → Text → Except Error Text
  | 0, s => .ok s
  | fuel + 1, s =>
    match s.dropWhile isSpace with
    | '#' :: comment => do afterTrivia fuel (← afterComment ('#' :: comment))
    | s =>
      match newline? s with
      | some (_, rest) => afterTrivia fuel rest
      | none => .ok s

/-- What follows the blanks and the comment at the end of a line, and its terminator. -/
def afterLineEnd (s : Text) : Except Error Text := do
  let s ← afterComment (s.dropWhile isSpace)
  match s with
  | [] => return []
  | s =>
    match newline? s with
    | some (_, rest) => return rest
    | none => .error .malformed

/-! ## Keys -/

/-- The characters of keys without quotes. -/
def isBareKey (c : Char) : Bool :=
  c.isAlphanum || c = '_' || c = '-'

/-- Reads a key without dots. -/
def readKey (s : Text) : Except Error (Text × Text) :=
  match s with
  | '"' :: rest => readBasic (rest.length + 1) rest
  | '\'' :: rest => readVerbatim rest
  | s =>
    let key := s.takeWhile isBareKey
    if key.isEmpty then .error .malformed else .ok (key, s.dropWhile isBareKey)

/-- Reads keys with dots between them. Each key takes a character. -/
def readPath : Nat → Text → Except Error (List Text × Text)
  | 0, _ => .error .malformed
  | fuel + 1, s => do
    let (key, s) ← readKey (s.dropWhile isSpace)
    match s.dropWhile isSpace with
    | '.' :: s =>
      let (path, s) ← readPath fuel s
      return (key :: path, s)
    | s => return ([key], s)

/-- The number of values that may be nested in each other, and of keys with dots between them. -/
def maxDepth : Nat := 80

/-- Reads keys with dots between them, of which there are not too many. -/
def readKeys (s : Text) : Except Error (List Text × Text) := do
  let (path, s) ← readPath (s.length + 1) s
  if maxDepth < path.length then .error .tooDeep else return (path, s)

/-! ## Values -/

mutual

/-- Reads the value at the start of a text. Fuel goes down by one from one reader to the next. -/
def readValue : Nat → Nat → Text → Except Error (Value × Text)
  | 0, _, _ => .error .malformed
  | fuel + 1, depth, s =>
    match readString? s with
    | some read => do
      let (content, rest) ← read
      return (.text content, rest)
    | none =>
      match s with
      | '[' :: rest =>
        if maxDepth ≤ depth then .error .tooDeep
        else do
          let (items, rest) ← readItems fuel (depth + 1) rest
          return (.array false items, rest)
      | '\x7b' :: rest =>
        if maxDepth ≤ depth then .error .tooDeep
        else do
          let (table, rest) ← readEntries fuel (depth + 1) (.table .header []) rest
          -- later lines cannot add to a table that was written in one
          return (table.closed, rest)
      | s => do
        let (literal, rest) := splitLiteral s
        return (← Value.ofLiteral literal, rest)

/-- Reads the items of a list up to its closing bracket. -/
def readItems : Nat → Nat → Text → Except Error (List Value × Text)
  | 0, _, _ => .error .malformed
  | fuel + 1, depth, s => do
    match ← afterTrivia s.length s with
    | ']' :: rest => return ([], rest)
    | s =>
      let (v, s) ← readValue fuel depth s
      match ← afterTrivia s.length s with
      | ',' :: s =>
        let (vs, rest) ← readItems fuel depth s
        return (v :: vs, rest)
      | ']' :: rest => return ([v], rest)
      | _ => .error .malformed

/-- Reads the entries of a table up to its closing brace and adds them. -/
def readEntries : Nat → Nat → Value → Text → Except Error (Value × Text)
  | 0, _, _, _ => .error .malformed
  | fuel + 1, depth, table, s => do
    match ← afterTrivia s.length s with
    | '\x7d' :: rest => return (table, rest)
    | s =>
      let (table, s) ← readEntry fuel depth table s
      match ← afterTrivia s.length s with
      | ',' :: s => readEntries fuel depth table s
      | '\x7d' :: rest => return (table, rest)
      | _ => .error .malformed

/-- Reads a key with its value and adds them to a table between braces. Line ends and comments may
stand on both sides of the equals sign. -/
def readEntry : Nat → Nat → Value → Text → Except Error (Value × Text)
  | 0, _, _, _ => .error .malformed
  | fuel + 1, depth, table, s => do
    let (path, s) ← readKeys s
    match ← afterTrivia s.length s with
    | '=' :: s =>
      let (v, s) ← readValue fuel depth (← afterTrivia s.length s)
      return (← table.insert path v, s)
    | _ => .error .malformed

end

/-- Fuel enough to read anything in a text: between two characters that are taken a reader calls at
most three others. -/
def readFuel (s : Text) : Nat :=
  3 * s.length + 3

/-! ## Lines -/

/-- What has been read of a text: the whole table, and the header under which keys stand now. -/
structure Progress where
  root : Value
  header : List Text

/-- Reads the path of a header up to the brackets that close it. -/
def readHeader (close s : Text) : Except Error (List Text × Text) := do
  let (path, s) ← readKeys s
  match Text.after? close (s.dropWhile isSpace) with
  | some rest => return (path, rest)
  | none => .error .malformed

/-- Adds the entry at the start of a text to the table of the current header. -/
def Progress.readEntry (progress : Progress) (s : Text) : Except Error (Progress × Text) := do
  let (path, s) ← readKeys s
  match s.dropWhile isSpace with
  | '=' :: s =>
    let (v, s) ← readValue (readFuel s) 0 (s.dropWhile isSpace)
    let root ← Value.descend false (·.insert path v) progress.header progress.root
    return (⟨root, progress.header⟩, s)
  | _ => .error .malformed

/-- Reads what a line holds besides blanks and a comment. -/
def Progress.readLine (progress : Progress) (s : Text) : Except Error (Progress × Text) :=
  match s with
  | '[' :: '[' :: s => do
    let (path, s) ← readHeader "]]".toList s
    return (⟨← progress.root.openItem path, path⟩, s)
  | '[' :: s => do
    let (path, s) ← readHeader [']'] s
    return (⟨← progress.root.openTable path, path⟩, s)
  | s => progress.readEntry s

/-- Reads the lines of a text. Each takes a character. -/
def readLinesFrom : Nat → Progress → Text → Except Error Value
  | 0, progress, _ => .ok progress.root
  | fuel + 1, progress, s => do
    match ← afterTrivia s.length s with
    | [] => return progress.root
    | s =>
      let (progress, s) ← progress.readLine s
      readLinesFrom fuel progress (← afterLineEnd s)

/-- The table that a configuration text stands for. A byte order mark at its start is skipped. -/
def Value.ofText? (s : Text) : Except Error Value :=
  let s := (Text.after? ['\ufeff'] s).getD s
  readLinesFrom s.length ⟨.table .header [], []⟩ s

end Weave.Toml

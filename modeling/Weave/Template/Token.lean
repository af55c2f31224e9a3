import Weave.Template.Error
import Weave.Text.Blank
import Weave.Text.Digits

/-!
# Weave.Template.Token — templates cut into text and tags

A template is text with tags in it: `\x7b\x7b … \x7d\x7d` puts out a value, `\x7b% … %\x7d` is a
statement and `\x7b# … #\x7d` a comment. `Segment.ofTemplate?` cuts a template at its tags and
reads the tokens of each. A hyphen inside a tag's marks trims the white space of the text next to
it; a plus sign there changes nothing. Between `raw` and `endraw` statements all is text.
-/

namespace Weave.Template

/-! ## Types -/

inductive Token where
  | name (text : Text)
  | string (text : Text)
  | int (value : Nat)
  | mark (symbol : Text)
deriving Repr, DecidableEq, Inhabited

/-- A mark given by its characters. -/
abbrev Token.sym (symbol : String) : Token :=
  .mark symbol.toList

/-- A name given by its characters. -/
abbrev Token.word (text : String) : Token :=
  .name text.toList

inductive Segment where
  | text (content : Text)
  | output (tokens : List Token)
  | statement (tokens : List Token)
deriving Repr, DecidableEq, Inhabited

inductive TagKind where
  | output
  | statement
  | comment
deriving Repr, DecidableEq, Inhabited

/-- The character that opens a tag together with a brace and closes it together with one. -/
def TagKind.inner : TagKind → Char
  | .output => '\x7b'
  | .statement => '%'
  | .comment => '#'

def TagKind.close : TagKind → Text
  | .output => ['\x7d', '\x7d']
  | .statement => ['%', '\x7d']
  | .comment => ['#', '\x7d']

/-- The kind of tag that a brace followed by this character opens. -/
def TagKind.ofInner? (c : Char) : Option TagKind :=
  if c = '\x7b' then some .output
  else if c = '%' then some .statement
  else if c = '#' then some .comment
  else none

/-! ## Finding marks -/

/-- The text before the next tag, and the kind of that tag with what follows its opening mark. -/
def splitTag : Text → Text × Option (TagKind × Text)
  | [] => ([], none)
  | [c] => ([c], none)
  | c :: d :: rest =>
    match (if c = '\x7b' then TagKind.ofInner? d else none) with
    | some kind => ([], some (kind, rest))
    | none =>
      let (before, tag) := splitTag (d :: rest)
      (c :: before, tag)

/-- What follows a sign that controls white space, and whether the sign is a hyphen. -/
def dropSign : Text → Bool × Text
  | '-' :: rest => (true, rest)
  | '+' :: rest => (false, rest)
  | rest => (false, rest)

/-- White space as it is known inside tags. -/
def isTagBlank (c : Char) : Bool :=
  c = ' ' || c = '\t' || c = '\n' || c = '\r' || c = '\x0c'

/-- What follows the mark that ends a tag, and whether a hyphen stands before that mark. -/
def closing? (kind : TagKind) (s : Text) : Option (Bool × Text) :=
  match Text.after? kind.close s with
  | some rest => some (false, rest)
  | none =>
    match s with
    | '-' :: s' => (Text.after? kind.close s').map (true, ·)
    | '+' :: s' => (Text.after? kind.close s').map (false, ·)
    | _ => none

/-! ## Tokens -/

def isNameStart (c : Char) : Bool :=
  c.isAlpha || c = '_'

def isNameRest (c : Char) : Bool :=
  c.isAlphanum || c = '_'

/-! ### Strings -/

/-- The characters that stand for themselves or for a control character after a backslash. -/
def simpleEscape? : Char → Option Char
  | '\\' => some '\\'
  | '"' => some '"'
  | '\'' => some '\''
  | '/' => some '/'
  | 'b' => some '\x08'
  | 'f' => some '\x0c'
  | 'n' => some '\n'
  | 'r' => some '\r'
  | 't' => some '\t'
  | _ => none

/-- What stands before the quote that closes a string, with its escapes, and what follows it. A
quote after a backslash closes nothing. -/
def splitString? (quote : Char) : Text → Option (Text × Text)
  | [] => none
  | '\\' :: c :: rest => (splitString? quote rest).map fun (s, r) => ('\\' :: c :: s, r)
  | c :: rest =>
    if c = quote then some ([], rest)
    else (splitString? quote rest).map fun (s, r) => (c :: s, r)

/-- What an escape stands for. -/
inductive Escape where
  | text (s : Text)
  /-- Half of a pair that stands for one character. -/
  | half (n : Nat)
deriving Repr, DecidableEq, Inhabited

def Escape.ofNumber (n : Nat) : Escape :=
  if n.isValidChar then .text [Char.ofNat n] else .half n

/-- The character that two halves stand for. -/
def pairedChar? (high low : Nat) : Option Char :=
  if high < 0xdc00 && 0xdc00 ≤ low then
    Text.scalar? (0x10000 + (high - 0xd800) * 0x400 + (low - 0xdc00))
  else none

/-- The number that exactly so many hexadecimal digits give. A plus sign may stand in the place of
the first. -/
def hexNumber? (width : Nat) (s : Text) : Option Nat :=
  let digits := (Text.after? ['+'] s).getD s
  if s.length < width || digits.isEmpty then none else Text.digitsValue? 16 digits

/-- The octal digits at the start of a text, of which at most three count. -/
def octalDigits (s : Text) : Text :=
  (s.take 3).takeWhile fun c => '0' ≤ c && c ≤ '7'

/-- Reads an escape, given without its backslash. One that is none stands for itself. -/
def readEscape : Text → Except Error (Escape × Text)
  | [] => .error .badLiteral
  | 'u' :: rest =>
    match hexNumber? 4 (rest.take 4) with
    | some n => .ok (.ofNumber n, rest.drop 4)
    | none => .error .badLiteral
  | 'x' :: rest =>
    match hexNumber? 2 (rest.take 2) with
    | some n => .ok (.ofNumber n, rest.drop 2)
    | none => .error .badLiteral
  | e :: rest =>
    match simpleEscape? e, octalDigits (e :: rest) with
    | some c, _ => .ok (.text [c], rest)
    | none, [] => .ok (.text ['\\', e], rest)
    | none, digits =>
      match Text.digitsValue? 8 digits with
      | some n =>
        if n < 256 then .ok (.ofNumber n, (e :: rest).drop digits.length)
        else .error .badLiteral
      | none => .error .badLiteral

/-- The text that a string stands for, given with its escapes and with the first half of a pair, if
that was read last. Each step takes a character. -/
def unescapeFrom : Nat → Option Nat → Text → Except Error Text
  | _, none, [] => .ok []
  | 0, _, _ => .error .badLiteral
  | fuel + 1, half, '\\' :: rest => do
    match half, ← readEscape rest with
    | none, (.text s, rest) => return s ++ (← unescapeFrom fuel none rest)
    | none, (.half n, rest) => unescapeFrom fuel (some n) rest
    | some high, (.half low, rest) =>
      match pairedChar? high low with
      | some c => return c :: (← unescapeFrom fuel none rest)
      | none => .error .badLiteral
    | some _, (.text _, _) => .error .badLiteral
  | fuel + 1, none, c :: rest => return c :: (← unescapeFrom fuel none rest)
  | _ + 1, some _, _ => .error .badLiteral

/-- Reads a string literal after its opening quote: its value, and what follows it. -/
def readString (quote : Char) (s : Text) : Except Error (Text × Text) :=
  match splitString? quote s with
  | none => .error (.unclosed "string".toList)
  | some (content, rest) => do return (← unescapeFrom content.length none content, rest)

/-! ### Numbers -/

/-- The largest integer that a literal can stand for. -/
def maxInt : Nat :=
  Nat.pow 2 128 - 1

/-- The integer written by digits of a base, in which underscores may stand, but not at the end. -/
def intLiteral (base : Nat) (digits : Text) : Except Error Nat :=
  let plain := digits.filter (· ≠ '_')
  if plain.isEmpty || digits.getLast? = some '_' then .error .badLiteral
  else
    match Text.digitsValue? base plain with
    | some n => if n ≤ maxInt then .ok n else .error .badLiteral
    | none => .error .badLiteral

/-- Reads a number at the start of a text. A decimal number that goes on with a point or an exponent
is no integer, and so no value. -/
def readNumber (s : Text) : Except Error (Token × Text) := do
  let (base, body) := match s with
    | '0' :: 'x' :: r => (16, r)
    | '0' :: 'X' :: r => (16, r)
    | '0' :: 'o' :: r => (8, r)
    | '0' :: 'O' :: r => (8, r)
    | '0' :: 'b' :: r => (2, r)
    | '0' :: 'B' :: r => (2, r)
    | r => (10, r)
  let isPart := fun c : Char =>
    c = '_' || (if base = 16 then (Text.hexValue? c).isSome else c.isDigit)
  let n ← intLiteral base (body.takeWhile isPart)
  let rest := body.dropWhile isPart
  if base = 10 && rest.head?.any (".eE".toList.contains ·) then .error .badLiteral
  else .ok (.int n, rest)

/-! ### Marks and names -/

/-- The marks of two characters; they win over their first character alone. -/
def longMarks : List Text :=
  ["//", "**", "==", "!=", ">=", "<="].map String.toList

def shortMarks : Text :=
  "+-*/%~.,:()[]<>=|\x7b\x7d".toList

/-- Reads the token at the start of a text that starts with no white space. -/
def readToken : Text → Except Error (Token × Text)
  | [] => .error .malformedTag
  | c :: rest =>
    if c = '"' || c = '\'' then do
      let (value, after) ← readString c rest
      return (.string value, after)
    else if c.isDigit then readNumber (c :: rest)
    else if isNameStart c then
      .ok (.name (c :: rest.takeWhile isNameRest), rest.dropWhile isNameRest)
    else
      match longMarks.findSome? (fun m => (Text.after? m (c :: rest)).map (m, ·)) with
      | some (m, after) => .ok (.mark m, after)
      | none =>
        if shortMarks.contains c then .ok (.mark [c], rest)
        else .error (.unexpectedCharacter c)

/-- How a token changes the number of open brackets. -/
def bracketDepth (depth : Int) : Token → Int
  | .mark ['('] => depth + 1
  | .mark ['['] => depth + 1
  | .mark ['\x7b'] => depth + 1
  | .mark [')'] => depth - 1
  | .mark [']'] => depth - 1
  | .mark ['\x7d'] => depth - 1
  | _ => depth

/-- The tokens of a tag: them, whether the tag trims what follows, and what follows. A closing
mark counts only outside brackets. Each step takes a character, so the length of the text is fuel
enough. -/
def readTag (kind : TagKind) : Nat → Int → Text → Except Error (List Token × Bool × Text)
  | 0, _, _ => .error (.unclosed "input".toList)
  | fuel + 1, depth, s =>
    match s.dropWhile isTagBlank with
    | [] => .error (.unclosed "input".toList)
    | c :: rest =>
      match (if depth = 0 then closing? kind (c :: rest) else none) with
      | some (trims, after) => .ok ([], trims, after)
      | none => do
        let (token, after) ← readToken (c :: rest)
        let (tokens, trims, after) ← readTag kind fuel (bracketDepth depth token) after
        return (token :: tokens, trims, after)

/-! ## Segments -/

/-- What follows a statement that consists of one name: whether it trims, and the text. -/
def plainStatement? (name : Text) (s : Text) : Option (Bool × Text) := do
  let rest ← Text.after? name (s.dropWhile isTagBlank)
  closing? .statement (rest.dropWhile isTagBlank)

/-- The raw text up to an `endraw` statement, whether that statement trims on either side, and
what follows it. -/
def readRaw : Text → Option (Text × Bool × Bool × Text)
  | [] => none
  | c :: cs =>
    let here := do
      let rest ← Text.after? ['\x7b', '%'] (c :: cs)
      let (trimsBefore, rest) := dropSign rest
      let (trimsAfter, rest) ← plainStatement? "endraw".toList rest
      return ([], trimsBefore, trimsAfter, rest)
    match here with
    | some found => some found
    | none => (readRaw cs).map fun (raw, found) => (c :: raw, found)

/-- The text with white space removed at the start, at the end or at both. -/
def trimText (atStart atEnd : Bool) (s : Text) : Text :=
  let s := if atStart then Text.trimStart s else s
  if atEnd then Text.trimEnd s else s

/-- A text segment, unless it is empty. -/
def textSegment (s : Text) : List Segment :=
  if s.isEmpty then [] else [.text s]

/-- Cuts the rest of a template into segments; `trims` says whether the tag before it trims. Each
tag takes characters, so one more than the length of the text is fuel enough. -/
def segmentsFrom : Nat → Bool → Text → Except Error (List Segment)
  | 0, _, _ => .error (.unclosed "template".toList)
  | fuel + 1, trims, s =>
    match splitTag s with
    | (before, none) => .ok (textSegment (trimText trims false before))
    | (before, some (.comment, inside)) =>
      let (trimsBefore, inside) := dropSign inside
      match Text.splitAround? TagKind.comment.close inside with
      | none => .error (.unclosed "comment".toList)
      | some (comment, after) => do
        let rest ← segmentsFrom fuel (comment.getLast? = some '-') after
        return textSegment (trimText trims trimsBefore before) ++ rest
    | (before, some (.output, inside)) => do
      let (trimsBefore, inside) := dropSign inside
      let (tokens, trimsAfter, after) ← readTag .output (inside.length + 1) 0 inside
      let rest ← segmentsFrom fuel trimsAfter after
      return textSegment (trimText trims trimsBefore before) ++ .output tokens :: rest
    | (before, some (.statement, inside)) => do
      let (trimsBefore, inside) := dropSign inside
      let head := textSegment (trimText trims trimsBefore before)
      -- up to its end, nothing in a raw block is a tag
      match plainStatement? "raw".toList inside with
      | some (trimsRaw, inside) =>
        match readRaw inside with
        | none => .error (.unclosed "raw block".toList)
        | some (raw, trimsRawEnd, trimsAfter, after) =>
          let rest ← segmentsFrom fuel trimsAfter after
          return head ++ textSegment (trimText trimsRaw trimsRawEnd raw) ++ rest
      | none =>
        let (tokens, trimsAfter, after) ← readTag .statement (inside.length + 1) 0 inside
        let rest ← segmentsFrom fuel trimsAfter after
        return head ++ .statement tokens :: rest

def Segment.ofTemplate? (template : Text) : Except Error (List Segment) :=
  segmentsFrom (template.length + 1) false template

end Weave.Template

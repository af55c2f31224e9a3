import Weave.Text.Digits
import Weave.Toml.Value

/-!
# Weave.Toml.Literal — strings, numbers and dates

The literals of a configuration text. A reader takes a literal from the start of a text and gives
its value together with what follows.
-/

namespace Weave.Toml

/-! ## Characters -/

/-- The blanks within a line. -/
def isSpace (c : Char) : Bool :=
  c = ' ' || c = '\t'

/-- The control characters, which stand in no comment and no string. A tab is none of them. -/
def isControl (c : Char) : Bool :=
  (c.toNat < 0x20 && c ≠ '\t') || c = '\x7f'

/-- The line terminator at the start of a text and what follows it. -/
def newline? : Text → Option (Text × Text)
  | '\n' :: rest => some (['\n'], rest)
  | '\r' :: '\n' :: rest => some (['\r', '\n'], rest)
  | _ => none

/-! ## Strings -/

/-- The character that an escape of one character stands for. -/
def simpleEscape? : Char → Option Char
  | 'b' => some '\x08'
  | 't' => some '\t'
  | 'n' => some '\n'
  | 'f' => some '\x0c'
  | 'r' => some '\r'
  | 'e' => some '\x1b'
  | '"' => some '"'
  | '\\' => some '\\'
  | _ => none

/-- The number of hexadecimal digits after the letter of an escape. -/
def escapeWidth? : Char → Option Nat
  | 'x' => some 2
  | 'u' => some 4
  | 'U' => some 8
  | _ => none

/-- The character that an escape stands for, given without its backslash, and what follows. -/
def readEscape : Text → Except Error (Char × Text)
  | [] => .error .malformed
  | c :: rest =>
    match simpleEscape? c, escapeWidth? c with
    | some x, _ => .ok (x, rest)
    | none, none => .error .badLiteral
    | none, some width =>
      let digits := rest.take width
      if digits.length < width then .error .badLiteral
      else
        match (Text.digitsValue? 16 digits).bind Text.scalar? with
        | some x => .ok (x, rest.drop width)
        | none => .error .badLiteral

/-- The rest of a string on one line after its opening quote. -/
def readBasic : Nat → Text → Except Error (Text × Text)
  | 0, _ => .error .malformed
  | _ + 1, [] => .error .malformed
  | _ + 1, '"' :: rest => .ok ([], rest)
  | fuel + 1, '\\' :: rest => do
    let (x, rest) ← readEscape rest
    let (s, rest) ← readBasic fuel rest
    return (x :: s, rest)
  | fuel + 1, c :: rest => do
    if isControl c then throw .malformed
    let (s, rest) ← readBasic fuel rest
    return (c :: s, rest)

/-- The rest of a literal string on one line after its opening quote. -/
def readVerbatim : Text → Except Error (Text × Text)
  | [] => .error .malformed
  | '\'' :: rest => .ok ([], rest)
  | c :: rest => do
    if isControl c then throw .malformed
    let (s, rest) ← readVerbatim rest
    return (c :: s, rest)

/-- The end of a string over several lines, if the text begins with it: up to two quotes of the
string itself, and what follows. -/
def closingQuotes? (quote : Char) (s : Text) : Option (Text × Text) :=
  let n := (s.takeWhile (· = quote)).length
  if n < 3 then none
  else
    let inner := min (n - 3) 2
    some (List.replicate inner quote, s.drop (inner + 3))

/-- What follows the blanks and line terminators at the start of a text. Each step takes a
character. -/
def afterBlankLines : Nat → Text → Text
  | 0, s => s
  | fuel + 1, s =>
    match newline? (s.dropWhile isSpace) with
    | some (_, rest) => afterBlankLines fuel rest
    | none => s.dropWhile isSpace

/-- What follows a backslash at the end of a line: the line ends and blanks up to the next character
go. -/
def afterLineJoin? (s : Text) : Option Text :=
  match newline? (s.dropWhile isSpace) with
  | none => none
  | some (_, rest) => some (afterBlankLines rest.length rest)

/-- The rest of a string over several lines, in which a backslash begins an escape unless the string
is verbatim. -/
def readLines (quote : Char) (verbatim : Bool) : Nat → Text → Except Error (Text × Text)
  | 0, _ => .error .malformed
  | _ + 1, [] => .error .malformed
  | fuel + 1, c :: rest =>
    match closingQuotes? quote (c :: rest) with
    | some found => .ok found
    | none =>
      match newline? (c :: rest) with
      | some (terminator, rest) => do
        let (s, rest) ← readLines quote verbatim fuel rest
        return (terminator ++ s, rest)
      | none =>
        if c = '\\' && !verbatim then
          -- a backslash at the end of a line joins it with the next text
          match afterLineJoin? rest with
          | some after => readLines quote verbatim fuel after
          | none => do
            let (x, rest) ← readEscape rest
            let (s, rest) ← readLines quote verbatim fuel rest
            return (x :: s, rest)
        else if isControl c then .error .malformed
        else do
          let (s, rest) ← readLines quote verbatim fuel rest
          return (c :: s, rest)

/-- A string without the line terminator that it may begin with. -/
def dropFirstNewline (s : Text) : Text :=
  match newline? s with
  | some (_, rest) => rest
  | none => s

/-- Reads the string at the start of a text. The lengths of texts are fuel enough, as each step
takes a character. -/
def readString? (s : Text) : Option (Except Error (Text × Text)) :=
  match s with
  | '"' :: '"' :: '"' :: rest =>
    let rest := dropFirstNewline rest
    some (readLines '"' false (rest.length + 1) rest)
  | '\'' :: '\'' :: '\'' :: rest =>
    let rest := dropFirstNewline rest
    some (readLines '\'' true (rest.length + 1) rest)
  | '"' :: rest => some (readBasic (rest.length + 1) rest)
  | '\'' :: rest => some (readVerbatim rest)
  | _ => none

/-! ## Numbers -/

/-- Whether a text consists of digits, between which single underscores may stand. -/
def isDigitRun (isDigit : Char → Bool) (s : Text) : Bool :=
  (s.splitOnP (· = '_')).all fun part => !part.isEmpty && part.all isDigit

/-- A sign at the start of a number and the rest. -/
def splitSign : Text → Bool × Text
  | '+' :: rest => (false, rest)
  | '-' :: rest => (true, rest)
  | rest => (false, rest)

/-- Whether a text is the part of a decimal number before the point. -/
def isWhole (s : Text) : Bool :=
  isDigitRun Char.isDigit s && (s.length = 1 || s.head? ≠ some '0')

/-- The number that digits of a base give. -/
def digitRunValue? (base : Nat) (s : Text) : Option Nat :=
  if isDigitRun (fun c => (Text.hexValue? c).any (· < base)) s then
    Text.digitsValue? base (s.filter (· ≠ '_'))
  else none

def integer? (literal : Text) : Option Int :=
  match literal with
  | '0' :: 'x' :: rest => (digitRunValue? 16 rest).map Int.ofNat
  | '0' :: 'o' :: rest => (digitRunValue? 8 rest).map Int.ofNat
  | '0' :: 'b' :: rest => (digitRunValue? 2 rest).map Int.ofNat
  | _ =>
    let (negative, digits) := splitSign literal
    if isWhole digits then
      (digitRunValue? 10 digits).map fun n => if negative then -(n : Int) else n
    else none

/-- Whether a text is an exponent, given without its letter. -/
def isExponent (s : Text) : Bool :=
  isDigitRun Char.isDigit (splitSign s).2

/-- Whether a literal stands for a number with a point or an exponent, or for one of the special
numbers. -/
def isFloat (literal : Text) : Bool :=
  let (_, s) := splitSign literal
  if s = "inf".toList || s = "nan".toList then true
  else
    let isE := fun c : Char => c = 'e' || c = 'E'
    let mantissa := s.takeWhile fun c => !isE c
    let exponent := s.dropWhile fun c => !isE c
    let whole := mantissa.takeWhile (· ≠ '.')
    let fraction := mantissa.dropWhile (· ≠ '.')
    isWhole whole && (!fraction.isEmpty || !exponent.isEmpty)
      && (fraction.isEmpty || isDigitRun Char.isDigit fraction.tail)
      && (exponent.isEmpty || isExponent exponent.tail)

/-! ## Dates and times -/

/-- The number that is written with exactly so many digits at the start of a text, and the rest. -/
def fixedDigits? (width : Nat) (s : Text) : Option (Nat × Text) :=
  let digits := s.take width
  if digits.length = width && digits.all Char.isDigit then
    some (Text.toNat digits, s.drop width)
  else none

/-- The number of days of a month. -/
def daysOf (year month : Nat) : Nat :=
  if month = 2 then
    if year % 4 = 0 && (year % 100 ≠ 0 || year % 400 = 0) then 29 else 28
  else if month = 4 || month = 6 || month = 9 || month = 11 then 30
  else 31

/-- What follows a date at the start of a text. -/
def afterDate? (s : Text) : Option Text := do
  let (year, s) ← fixedDigits? 4 s
  let s ← Text.after? ['-'] s
  let (month, s) ← fixedDigits? 2 s
  let s ← Text.after? ['-'] s
  let (day, s) ← fixedDigits? 2 s
  if 1 ≤ month && month ≤ 12 && 1 ≤ day && day ≤ daysOf year month then some s else none

/-- What follows the seconds of a time, which may be missing, with their fraction. -/
def afterSeconds? (s : Text) : Option Text :=
  match s with
  | ':' :: s => do
    let (second, s) ← fixedDigits? 2 s
    if 60 < second then none
    else
      match s with
      | '.' :: fraction =>
        if (fraction.takeWhile Char.isDigit).isEmpty then none
        else some (fraction.dropWhile Char.isDigit)
      | s => some s
  | s => some s

/-- What follows hours and minutes at the start of a text. -/
def afterMinutes? (s : Text) : Option Text := do
  let (hour, s) ← fixedDigits? 2 s
  let s ← Text.after? [':'] s
  let (minute, s) ← fixedDigits? 2 s
  if hour ≤ 23 && minute ≤ 59 then some s else none

/-- What follows a time at the start of a text. -/
def afterTime? (s : Text) : Option Text := do
  afterSeconds? (← afterMinutes? s)

/-- Whether a text is an offset from universal time, or empty. -/
def isOffset (s : Text) : Bool :=
  match s with
  | [] => true
  | ['Z'] => true
  | ['z'] => true
  | '+' :: s => afterMinutes? s = some []
  | '-' :: s => afterMinutes? s = some []
  | _ => false

def isDateTime (literal : Text) : Bool :=
  match afterDate? literal with
  | some [] => true
  | some (c :: time) =>
    (c = 'T' || c = 't' || c = ' ') && (afterTime? time).any isOffset
  | none => afterTime? literal = some []

/-! ## Literals -/

def endsLiteral (c : Char) : Bool :=
  isSpace c || c = '\n' || c = '\r' || c = ',' || c = ']' || c = '\x7d' || c = '#'

/-- The literal at the start of a text and what follows. A single space may stand between a date
and a time. -/
def splitLiteral (s : Text) : Text × Text :=
  let literal := s.takeWhile fun c => !endsLiteral c
  let rest := s.dropWhile fun c => !endsLiteral c
  match afterDate? literal, rest with
  | some [], ' ' :: time =>
    if (afterMinutes? time).isSome then
      (literal ++ ' ' :: time.takeWhile fun c => !endsLiteral c,
       time.dropWhile fun c => !endsLiteral c)
    else (literal, rest)
  | _, _ => (literal, rest)

def Value.ofLiteral (literal : Text) : Except Error Value :=
  if literal = "true".toList then .ok (.bool true)
  else if literal = "false".toList then .ok (.bool false)
  else
    match integer? literal with
    | some n => .ok (.int n)
    | none =>
      if isFloat literal then .ok (.float literal)
      else if isDateTime literal then .ok (.dateTime literal)
      else .error .badLiteral

end Weave.Toml

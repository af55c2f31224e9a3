import Weave.Shell.Decimal

/-!
# Weave.Shell.Format — formats of printed arguments

The escapes that are replaced when something is printed, and formats such as `%-5s` or `%03d` into
which arguments are put.
-/

namespace Weave.Shell

/-! ## Escapes -/

/-- The character that a letter after a backslash stands for when something is printed. -/
def printedEscape? : Char → Option Char
  | 'a' => some '\x07'
  | 'b' => some '\x08'
  | 'e' => some '\x1b'
  | 'f' => some '\x0c'
  | 'n' => some '\n'
  | 'r' => some '\r'
  | 't' => some '\t'
  | 'v' => some '\x0b'
  | '\\' => some '\\'
  | _ => none

def isOctal (c : Char) : Bool :=
  '0' ≤ c && c ≤ '7'

/-- The byte of up to three octal digits at the start of a text, and the rest. -/
def readOctal? (s : Text) : Option (Char × Text) :=
  let digits := (s.take 3).takeWhile isOctal
  if digits.isEmpty then none
  else (Text.digitsValue? 8 digits).map fun n => (Char.ofNat (n % 256), s.drop digits.length)

/-- The character for what follows a backslash, and the rest. A backslash that starts no escape
stands for itself. -/
def readEscape (s : Text) : Char × Text :=
  match readOctal? s with
  | some (c, rest) => (c, rest)
  | none =>
    match s with
    | c :: rest =>
      match printedEscape? c with
      | some x => (x, rest)
      | none => ('\\', c :: rest)
    | [] => ('\\', [])

/-- An argument with its escapes replaced, and whether `\c` ended it. An octal number may have a
zero of its own in front. The number of characters is fuel enough. -/
def unescapeArgument : Nat → Text → Text × Bool
  | 0, s => (s, false)
  | _ + 1, [] => ([], false)
  | _ + 1, '\\' :: 'c' :: _ => ([], true)
  | fuel + 1, '\\' :: rest =>
    let rest := match rest with
      | '0' :: c :: more => if isOctal c then c :: more else rest
      | _ => rest
    let (c, rest) := readEscape rest
    let (s, stopped) := unescapeArgument fuel rest
    (c :: s, stopped)
  | fuel + 1, c :: rest =>
    let (s, stopped) := unescapeArgument fuel rest
    (c :: s, stopped)

/-! ## Directives -/

/-- A place in a format where an argument is put. -/
structure Directive where
  flags : Text
  width : Nat
  precision : Option Nat
  conversion : Char
deriving Repr, DecidableEq, Inhabited

namespace Directive

def has (d : Directive) (flag : Char) : Bool :=
  d.flags.contains flag

/-- A text filled with spaces up to the width. -/
def fill (d : Directive) (s : Text) : Text :=
  let spaces := List.replicate (d.width - s.length) ' '
  if d.has '-' then s ++ spaces else spaces ++ s

/-- A number filled up to the width, with zeros after its sign if they are asked for. -/
def fillNumber (d : Directive) (zeros : Bool) (sign digits : Text) : Text :=
  if zeros && d.has '0' && !d.has '-' then
    sign ++ List.replicate (d.width - (sign.length + digits.length)) '0' ++ digits
  else d.fill (sign ++ digits)

def sign (d : Directive) (negative : Bool) : Text :=
  if negative then ['-'] else if d.has '+' then ['+'] else if d.has ' ' then [' '] else []

def text (d : Directive) (s : Text) : Text :=
  d.fill (match d.precision with
    | some n => s.take n
    | none => s)

/-- Digits with zeros in front up to the precision. Zero has no digits at all if the precision is
zero. -/
def digits (d : Directive) (base n : Nat) : Text :=
  let digits := if n = 0 && d.precision = some 0 then [] else Nat.toDigits base n
  List.replicate (d.precision.getD 0 - digits.length) '0' ++ digits

def integer (d : Directive) (n : Int) : Text :=
  let plain := d.precision.isNone
  let unsigned := (n % (wordCount : Int)).toNat
  match d.conversion with
  | 'o' =>
    let digits := d.digits 8 unsigned
    d.fillNumber plain [] (if d.has '#' && digits.head? ≠ some '0' then '0' :: digits else digits)
  | 'x' => d.fillNumber plain (if d.has '#' && unsigned ≠ 0 then ['0', 'x'] else [])
      (d.digits 16 unsigned)
  | 'X' => d.fillNumber plain (if d.has '#' && unsigned ≠ 0 then ['0', 'X'] else [])
      ((d.digits 16 unsigned).map Char.toUpper)
  | 'u' => d.fillNumber plain [] (d.digits 10 unsigned)
  | _ => d.fillNumber plain (d.sign (n < 0)) (d.digits 10 n.natAbs)

def real (d : Directive) (negative : Bool) (x : Float) : Text :=
  let places := d.precision.getD 6
  match fraction? x with
  | none => d.fill (d.sign negative ++ "inf".toList)
  | some q =>
    let form := match d.conversion.toLower with
      | 'e' => scientificForm q places (d.has '#')
      | 'g' => generalForm q places (d.has '#')
      | _ => fixedForm q places (d.has '#')
    d.fillNumber true (d.sign negative)
      (if d.conversion.isUpper then form.map Char.toUpper else form)

end Directive

/-! ## Formats -/

/-- What printing a format has come to. -/
structure Printing where
  args : List Text
  /-- What was printed, last first. -/
  output : Text
  complaints : List Text
  /-- Whether nothing more is printed. -/
  stopped : Bool
  /-- Whether the format itself is wrong. -/
  failed : Bool
deriving Inhabited

namespace Printing

def print (p : Printing) (s : Text) : Printing :=
  { p with output := s.reverse ++ p.output }

/-- The next argument, empty if there is none. -/
def take (p : Printing) : Text × Printing :=
  (p.args.headD [], { p with args := p.args.tail })

/-- Printing with a complaint about an argument. -/
def complain (p : Printing) (message : Text) : Printing :=
  { p with complaints := p.complaints ++ [message] }

/-- Printing cannot go on with a format. -/
def fail (p : Printing) (message : Text) : Printing :=
  { p.complain message with stopped := true, failed := true }

/-- The complaint about what follows a number in an argument. -/
def checkRest (p : Printing) (argument rest : Text) : Printing :=
  if rest.isEmpty then p
  else if rest.length = argument.length then
    p.complain (argument ++ ": expected numeric value".toList)
  else p.complain (argument ++ ": not completely converted".toList)

/-- The next argument as an integer. After a quote it is the number of a character. -/
def takeInteger (p : Printing) (signed : Bool) : Int × Printing :=
  let (argument, p) := p.take
  match argument with
  | '"' :: rest | '\'' :: rest => ((rest.headD '\x00').toNat, p)
  | _ =>
    let s := argument.dropWhile isSpace
    let (negative, s) := match s with
      | '-' :: rest => (true, rest)
      | '+' :: rest => (false, rest)
      | rest => (false, rest)
    if !s.head?.any Char.isDigit then (0, p.checkRest argument argument)
    else
      let (n, rest) := splitNumber s
      let value : Int := if negative then -n else n
      let bounded := if signed then saturate value else if n < wordCount then value else -1
      let p := p.checkRest argument rest
      (bounded, if bounded = value || !rest.isEmpty then p
        else p.complain (argument ++ ": Numerical result out of range".toList))

/-- The next argument as a number with a fraction. -/
def takeReal (p : Printing) : Bool × Float × Printing :=
  let (argument, p) := p.take
  match argument with
  | '"' :: rest | '\'' :: rest => (false, Float.ofNat (rest.headD '\x00').toNat, p)
  | _ =>
    match splitFraction? argument with
    | some (negative, x, rest) => (negative, x, p.checkRest argument rest)
    | none => (false, 0, p.checkRest argument argument)

/-- Prints the next argument as a directive asks. The source is the text of the directive. -/
def apply (p : Printing) (d : Directive) (source : Text) : Printing :=
  match d.conversion with
  | 's' =>
    let (s, p) := p.take
    p.print (d.text s)
  | 'b' =>
    let (s, p) := p.take
    let (s, stopped) := unescapeArgument (s.length + 1) s
    { p.print (d.text s) with stopped := stopped }
  | 'c' =>
    let (s, p) := p.take
    p.print (d.fill [s.headD '\x00'])
  | c =>
    if c = 'd' || c = 'i' then
      let (n, p) := p.takeInteger true
      p.print (d.integer n)
    else if "ouxX".toList.contains c then
      let (n, p) := p.takeInteger false
      p.print (d.integer n)
    else if "eEfFgG".toList.contains c then
      let (negative, x, p) := p.takeReal
      p.print (d.real negative x)
    else p.fail (source ++ ": invalid directive".toList)

/-- A number in a directive, or the next argument for a star. -/
def readCount (p : Printing) (s : Text) : Option Int × Text × Printing :=
  match s with
  | '*' :: rest =>
    let (n, p) := p.takeInteger true
    (some n, rest, p)
  | s =>
    let digits := s.takeWhile Char.isDigit
    (if digits.isEmpty then none else some (Text.toNat digits), s.drop digits.length, p)

/-- Prints by the directive after a percent sign: also gives what follows the directive. -/
def directive (p : Printing) (s : Text) : Printing × Text :=
  let flags := s.takeWhile fun c => "#-+ 0".toList.contains c
  let (width, rest, p) := p.readCount (s.drop flags.length)
  let (precision, rest, p) := match rest with
    | '.' :: rest =>
      let (n, rest, p) := p.readCount rest
      (some (n.getD 0), rest, p)
    | rest => (none, rest, p)
  match rest with
  | [] => (p.fail "missing format character".toList, [])
  | c :: rest =>
    let width := width.getD 0
    let d : Directive :=
      { flags := if width < 0 then '-' :: flags else flags
        width := width.natAbs
        precision := precision.bind fun n => if n < 0 then none else some n.natAbs
        conversion := c }
    (p.apply d ('%' :: s.take (s.length - rest.length)), rest)

/-- Prints a format once. The number of characters is fuel enough. -/
def once : Nat → Text → Printing → Printing
  | 0, _, p => p
  | _ + 1, [], p => p
  | fuel + 1, '\\' :: rest, p =>
    let (c, rest) := readEscape rest
    once fuel rest (p.print [c])
  | fuel + 1, '%' :: '%' :: rest, p => once fuel rest (p.print ['%'])
  | fuel + 1, '%' :: rest, p =>
    let (p, rest) := p.directive rest
    if p.stopped then p else once fuel rest p
  | fuel + 1, c :: rest, p => once fuel rest (p.print [c])

/-- Prints a format again and again until no argument is left. -/
def repeated : Nat → Text → Printing → Printing
  | 0, _, p => p
  | fuel + 1, format, p =>
    let next := once (format.length + 1) format p
    if next.stopped || next.args.isEmpty || next.args.length = p.args.length then next
    else repeated fuel format next

/-- What a format with arguments prints. -/
def ofFormat (format : Text) (args : List Text) : Printing :=
  repeated (args.length + 1) format ⟨args, [], [], false, false⟩

end Printing

end Weave.Shell

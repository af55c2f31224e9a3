import Weave.Shell.Condition
import Weave.Shell.Format
import Weave.Shell.Tool.Basic

/-!
# Weave.Shell.Tool.Print — small answers

Tools that print their arguments, answer a question about them, or only end with a status.
-/

namespace Weave.Shell.Print

/-! ## Printing -/

/-- The value of up to two hexadecimal digits at the start of a text, and the rest. -/
def readHex? (s : Text) : Option (Char × Text) :=
  let digits := (s.take 2).takeWhile fun c => (Text.hexValue? c).isSome
  if digits.isEmpty then none
  else (Text.digitsValue? 16 digits).map fun n => (Char.ofNat n, s.drop digits.length)

/-- A text with the escapes of `echo` replaced, and whether `\c` ended it. The number of characters
is fuel enough. -/
def unescape : Nat → Text → Text × Bool
  | 0, s => (s, false)
  | _ + 1, [] => ([], false)
  | _ + 1, '\\' :: 'c' :: _ => ([], true)
  | fuel + 1, '\\' :: rest =>
    let (c, rest) := match rest with
      | 'x' :: more => (readHex? more).getD ('\\', rest)
      | '0' :: more => (readOctal? more).getD ('\x00', more)
      | rest => readEscape rest
    let (s, stopped) := unescape fuel rest
    (c :: s, stopped)
  | fuel + 1, c :: rest =>
    let (s, stopped) := unescape fuel rest
    (c :: s, stopped)

def isEchoOption (s : Text) : Bool :=
  match s with
  | '-' :: letters => !letters.isEmpty && letters.all fun c => "neE".toList.contains c
  | _ => false

/-- Prints its arguments with spaces between them. Escapes are replaced only if that is asked for.
-/
def echo : Tool := fun args =>
  let options := args.takeWhile isEchoOption
  let line := ((args.drop options.length).intersperse [' ']).flatten
  let letters := options.flatten
  let escapes := (letters.filter fun c => c = 'e' || c = 'E').getLast? = some 'e'
  let (s, stopped) := if escapes then unescape (line.length + 1) line else (line, false)
  Work.print (if stopped || letters.contains 'n' then s else s ++ ['\n'])

/-- Prints a format with arguments put in. -/
def printf : Tool := fun args => do
  match args with
  | [] => Work.misused "printf".toList "missing operand".toList 1
  | format :: args =>
    let p := Printing.ofFormat format args
    Work.print p.output.reverse
    p.complaints.forM fun message => Work.complain "printf".toList message 1

/-! ## Statuses -/

def succeed : Tool := fun _ =>
  return

def fail : Tool := fun _ =>
  Work.worsen 1

/-- Answers a condition by the status. -/
def test : Tool := fun args => do
  match Condition.answer (← get).disk args with
  | .ok yes => Work.worsen (if yes then 0 else 1)
  | .error e => Work.complain "test".toList e.message 2

/-- Answers a condition in brackets by the status. -/
def bracket : Tool := fun args =>
  if args.getLast? = some [']'] then test args.dropLast
  else Work.complain ['['] ("missing ".toList ++ quoted [']']) 2

def isDuration (s : Text) : Bool :=
  let digits := s.takeWhile fun c => c.isDigit || c = '.'
  digits.any Char.isDigit && (digits.filter (· = '.')).length ≤ 1
    && ["", "s", "m", "h", "d"].any fun unit => unit.toList = s.drop digits.length

/-- Waits, which takes no time here. -/
def sleep : Tool := fun args =>
  match args with
  | [] => Work.misused "sleep".toList "missing operand".toList 1
  | args =>
    match args.find? (!isDuration ·) with
    | some a => Work.misused "sleep".toList ("invalid time interval ".toList ++ quoted a) 1
    | none => return

/-! ## Facts -/

/-- Always prints the same line. -/
def fact (line : String) : Tool := fun _ =>
  Work.print (Text.endLine line.toList)

end Weave.Shell.Print

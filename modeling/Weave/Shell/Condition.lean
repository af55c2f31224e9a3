import Weave.Shell.Arithmetic
import Weave.Shell.Files

/-!
# Weave.Shell.Condition — questions about texts and files

Conditions such as `-f file`, `a = b` or `! ( 1 -lt 2 -a -n x )`, given as a list of arguments. An
argument is an operator only where the arguments after it allow that.
-/

namespace Weave.Shell

inductive ConditionError where
  | unexpectedOperator (argument : Text)
  | argumentExpected (operator : Text)
  | closingExpected
  | illegalNumber (argument : Text)
deriving Repr, DecidableEq, Inhabited

def ConditionError.message : ConditionError → Text
  | .unexpectedOperator argument => argument ++ ": unexpected operator".toList
  | .argumentExpected operator => operator ++ ": argument expected".toList
  | .closingExpected => "closing paren expected".toList
  | .illegalNumber argument => "Illegal number: ".toList ++ argument

namespace Condition

/-! ## Operators -/

def unaryOperators : List Text :=
  ["-r", "-w", "-x", "-e", "-f", "-d", "-c", "-b", "-p", "-u", "-g", "-k", "-s", "-t", "-z", "-n",
   "-h", "-O", "-G", "-L", "-S"].map String.toList

def binaryOperators : List Text :=
  ["=", "!=", "<", ">", "-eq", "-ne", "-ge", "-gt", "-le", "-lt", "-nt", "-ot", "-ef"].map
    String.toList

/-- Whether an argument that looks like an operator with one operand is one, by the arguments after
it. -/
def takesOperand (after : List Text) : Bool :=
  match after with
  | [] => false
  | [_] => true
  | next :: _ => !binaryOperators.contains next

def number (argument : Text) : Except ConditionError Int :=
  let s := (argument.dropWhile isSpace)
  let (negative, digits) := match s with
    | '-' :: rest => (true, rest)
    | '+' :: rest => (false, rest)
    | rest => (false, rest)
  let whole := digits.takeWhile Char.isDigit
  let n : Int := if negative then -(Text.toNat whole : Int) else Text.toNat whole
  if whole.isEmpty || !(digits.drop whole.length).all isSpace || saturate n ≠ n then
    .error (.illegalNumber argument)
  else .ok n

/-- The answer to a question about one text or path. -/
def askOne (disk : Disk) (operator operand : Text) : Bool :=
  match String.ofList operator with
  | "-n" => !operand.isEmpty
  | "-z" => operand.isEmpty
  | "-e" => fileExists disk operand
  | "-r" => fileExists disk operand
  | "-w" => fileExists disk operand
  | "-O" => fileExists disk operand
  | "-G" => fileExists disk operand
  | "-x" => isDirectory disk operand
  | "-f" => isRegular disk operand
  | "-d" => isDirectory disk operand
  | "-s" =>
    match statFile disk operand with
    | .ok (.file bytes) => bytes.size ≠ 0
    | .ok .dir => true
    | _ => false
  | "-c" =>
    match statFile disk operand with
    | .ok .sink => true
    | _ => false
  | _ => false

/-- The answer to a question about two texts, numbers or paths. -/
def askTwo (disk : Disk) (left operator right : Text) : Except ConditionError Bool :=
  let numbers := fun (f : Int → Int → Bool) => return f (← number left) (← number right)
  match String.ofList operator with
  | "=" => .ok (left = right)
  | "!=" => .ok (left ≠ right)
  | "<" => .ok (left < right)
  | ">" => .ok (right < left)
  | "-eq" => numbers fun a b => a = b
  | "-ne" => numbers fun a b => a ≠ b
  | "-lt" => numbers fun a b => a < b
  | "-le" => numbers fun a b => a ≤ b
  | "-gt" => numbers fun a b => b < a
  | "-ge" => numbers fun a b => b ≤ a
  | "-nt" => .ok (fileExists disk left && !fileExists disk right)
  | "-ot" => .ok (!fileExists disk left && fileExists disk right)
  | _ => .ok (fileExists disk left && locationOf disk left = locationOf disk right)

/-! ## The grammar -/

mutual

/-- Conditions joined by `-o`. Fuel goes down by one from one reader to the next. -/
def either (disk : Disk) : Nat → List Text → Except ConditionError (Bool × List Text)
  | 0, args => .ok (false, args)
  | fuel + 1, args => do
    let (a, rest) ← both disk fuel args
    match rest with
    | ['-', 'o'] :: rest =>
      let (b, rest) ← either disk fuel rest
      return (a || b, rest)
    | rest => return (a, rest)

/-- Conditions joined by `-a`. -/
def both (disk : Disk) : Nat → List Text → Except ConditionError (Bool × List Text)
  | 0, args => .ok (false, args)
  | fuel + 1, args => do
    let (a, rest) ← negation disk fuel args
    match rest with
    | ['-', 'a'] :: rest =>
      let (b, rest) ← both disk fuel rest
      return (a && b, rest)
    | rest => return (a, rest)

/-- A condition with exclamation marks in front. -/
def negation (disk : Disk) : Nat → List Text → Except ConditionError (Bool × List Text)
  | 0, args => .ok (false, args)
  | fuel + 1, args =>
    match args with
    | ['!'] :: rest => do
      let (a, rest) ← negation disk fuel rest
      return (!a, rest)
    | args => primary disk fuel args

/-- A condition in parentheses, a question, or a text, which has to be not empty. -/
def primary (disk : Disk) : Nat → List Text → Except ConditionError (Bool × List Text)
  | 0, args => .ok (false, args)
  | fuel + 1, args =>
    match args with
    | [] => .ok (false, [])
    | first :: after =>
      if first = ['('] && !after.isEmpty then
        if after.head? = some [')'] then .ok (false, after.tail)
        else do
          let (a, rest) ← either disk fuel after
          match rest with
          | [')'] :: rest => return (a, rest)
          | _ => throw .closingExpected
      -- an operator without an operand is a text like any other
      else if unaryOperators.contains first && takesOperand after then
        .ok (askOne disk first (after.headD []), after.tail)
      else
        match after with
        | operator :: right :: rest =>
          if binaryOperators.contains operator then do
            return (← askTwo disk first operator right, rest)
          else .ok (!first.isEmpty, after)
        | [operator] =>
          if binaryOperators.contains operator then .error (.argumentExpected operator)
          else .ok (!first.isEmpty, after)
        | [] => .ok (!first.isEmpty, after)

end

/-- The answer to the condition that all arguments are. What was read last before an argument that
does not fit is named in the error. -/
def whole (disk : Disk) (args : List Text) : Except ConditionError Bool := do
  let (a, rest) ← either disk (4 * args.length + 4) args
  if rest.isEmpty then return a
  throw (.unexpectedOperator (args.getD (args.length - rest.length - 1) []))

/-- The answer to a condition. Few arguments are understood by their number. -/
def answer (disk : Disk) (args : List Text) : Except ConditionError Bool :=
  match args with
  | [] => .ok false
  | [left, operator, right] =>
    if binaryOperators.contains operator then askTwo disk left operator right
    else if left = ['('] && right = [')'] then .ok (!operator.isEmpty)
    else if left = ['!'] then (whole disk [operator, right]).map (!·)
    else whole disk args
  | ['!'] :: a :: b :: [c] =>
    if binaryOperators.contains b then (askTwo disk a b c).map (!·)
    else (whole disk [a, b, c]).map (!·)
  | args => whole disk args

end Condition

end Weave.Shell

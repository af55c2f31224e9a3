import Weave.Store
import Weave.Text.Digits

/-!
# Weave.Shell.Arithmetic — sums in scripts

The expressions between `$((` and `))`: integers of 64 bits that wrap around, variables, and the
operators of a calculator. An expression is read into a tree first, so that what is not asked for is
not evaluated.
-/

namespace Weave.Shell

/-! ## Trees -/

inductive BinaryOp where
  | times | divide | remainder
  | plus | minus
  | shiftLeft | shiftRight
  | less | lessEqual | greater | greaterEqual
  | equal | notEqual
  | bitAnd | bitXor | bitOr
deriving Repr, DecidableEq, Inhabited

inductive UnaryOp where
  | plus | minus | negation | complement
deriving Repr, DecidableEq, Inhabited

/-- An expression. -/
inductive Sum where
  | number (value : Int)
  | variable (name : Text)
  | unary (op : UnaryOp) (operand : Sum)
  | binary (op : BinaryOp) (left right : Sum)
  | both (left right : Sum)
  | either (left right : Sum)
  | choice (condition yes no : Sum)
  /-- A variable is set, perhaps to what an operator makes of its old value. -/
  | assignment (name : Text) (op : Option BinaryOp) (value : Sum)
deriving Repr, Inhabited

inductive SumError where
  | expectedPrimary
  | expectedEnd
  | expected (symbol : Char)
  | divisionByZero
  /-- The value of a variable is no number. -/
  | illegalNumber (content : Text)
deriving Repr, DecidableEq, Inhabited

def SumError.message (source : Text) : SumError → Text
  | .illegalNumber content => "Illegal number: ".toList ++ content
  | e =>
    let reason := match e with
      | .expectedPrimary => "expecting primary".toList
      | .expectedEnd => "expecting EOF".toList
      | .expected symbol => "expecting \x27".toList ++ [symbol, '\'']
      | _ => "division by zero".toList
    "arithmetic expression: ".toList ++ reason ++ ": \"".toList ++ source ++ ['"']

/-! ## Numbers -/

/-- How many integers of 64 bits there are. -/
def wordCount : Nat :=
  Nat.pow 2 64

/-- The first number that is too large for a signed integer of 64 bits. -/
def wordLimit : Nat :=
  Nat.pow 2 63

/-- The integer of 64 bits that a number wraps around to. -/
def wrap (n : Int) : Int :=
  n.bmod wordCount

/-- The integer of 64 bits that is nearest to a number. -/
def saturate (n : Int) : Int :=
  max (-(wordLimit : Int)) (min ((wordLimit : Int) - 1) n)

/-- The decimal digits of an integer after its sign. -/
def textOfInt (n : Int) : Text :=
  if n < 0 then '-' :: Text.ofNat n.natAbs else Text.ofNat n.natAbs

/-- The number at the start of a text and what follows: in base 16 after `0x`, in base 8 after
`0`. -/
def splitNumber (s : Text) : Nat × Text :=
  let digitsOf := fun (base : Nat) (s : Text) =>
    let digits := s.takeWhile fun c => (Text.hexValue? c).any (· < base)
    ((Text.digitsValue? base digits).getD 0, s.drop digits.length)
  match s with
  | '0' :: x :: rest =>
    if (x = 'x' || x = 'X') && rest.head?.any fun c => (Text.hexValue? c).isSome then
      digitsOf 16 rest
    else digitsOf 8 s
  | s => digitsOf (if s.head? = some '0' then 8 else 10) s

/-- White space around a number. -/
def isSpace (c : Char) : Bool :=
  " \t\n\r\x0b\x0c".toList.contains c

/-- The integer that a whole text stands for, in any of the bases. Nothing but white space is
zero. -/
def parseInteger? (s : Text) : Option Int :=
  let s := s.dropWhile isSpace
  let (negative, digits) := match s with
    | '-' :: rest => (true, rest)
    | '+' :: rest => (false, rest)
    | rest => (false, rest)
  let (n, rest) := splitNumber digits
  if s.isEmpty then some 0
  else if (digits.head?.any Char.isDigit) && rest.all isSpace then
    some (saturate (if negative then -n else n))
  else none

/-! ## Symbols -/

inductive SumToken where
  | number (value : Int)
  | name (name : Text)
  | symbol (text : Text)
deriving Repr, DecidableEq, Inhabited

/-- The symbols, longer ones before those that they begin with. -/
def sumSymbols : List Text :=
  ["<<=", ">>=", "<=", ">=", "<<", ">>", "==", "!=", "&&", "||", "+=", "-=", "*=", "/=", "%=", "&=",
   "^=", "|=", "=", "<", ">", "+", "-", "*", "/", "%", "&", "|", "^", "!", "~", "?", ":", "(",
   ")"].map String.toList

/-- The symbol at the start of a text. Any other character is a symbol of its own, which nothing
expects. -/
def splitSymbol (c : Char) (rest : Text) : Text × Text :=
  let known := sumSymbols.findSome? fun symbol => (Text.after? symbol (c :: rest)).map (symbol, ·)
  known.getD ([c], rest)

/-- The symbols of an expression. The number of characters is fuel enough. -/
def sumTokens : Nat → Text → List SumToken
  | 0, _ => []
  | _ + 1, [] => []
  | fuel + 1, c :: rest =>
    if isSpace c then sumTokens fuel rest
    else if c.isDigit then
      let (n, rest) := splitNumber (c :: rest)
      .number (saturate n) :: sumTokens fuel rest
    else if c.isAlpha || c = '_' then
      let more := rest.takeWhile fun c => c.isAlphanum || c = '_'
      .name (c :: more) :: sumTokens fuel (rest.drop more.length)
    else
      let (symbol, rest) := splitSymbol c rest
      .symbol symbol :: sumTokens fuel rest

/-- The operator of a symbol and how loosely it binds. -/
def binaryOp? (symbol : Text) : Option (BinaryOp × Nat) :=
  match String.ofList symbol with
  | "*" => some (.times, 0)
  | "/" => some (.divide, 0)
  | "%" => some (.remainder, 0)
  | "+" => some (.plus, 1)
  | "-" => some (.minus, 1)
  | "<<" => some (.shiftLeft, 2)
  | ">>" => some (.shiftRight, 2)
  | "<" => some (.less, 3)
  | "<=" => some (.lessEqual, 3)
  | ">" => some (.greater, 3)
  | ">=" => some (.greaterEqual, 3)
  | "==" => some (.equal, 4)
  | "!=" => some (.notEqual, 4)
  | "&" => some (.bitAnd, 5)
  | "^" => some (.bitXor, 6)
  | "|" => some (.bitOr, 7)
  | _ => none

/-- More than any operator of `binaryOp?` binds loosely. -/
def loosest : Nat := 8

def unaryOp? (symbol : Text) : Option UnaryOp :=
  match symbol with
  | ['+'] => some .plus
  | ['-'] => some .minus
  | ['!'] => some .negation
  | ['~'] => some .complement
  | _ => none

/-- What an assignment does with the old value. -/
def assignmentOp? (symbol : Text) : Option (Option BinaryOp) :=
  if symbol = ['='] then some none
  else
    match Text.before? ['='] symbol with
    | some operator =>
      match binaryOp? operator with
      | some (op, _) =>
        if [.equal, .notEqual, .less, .greater, .lessEqual, .greaterEqual].contains op then none
        else some (some op)
      | none => none
    | none => none

/-! ## The grammar -/

mutual

/-- An assignment or a choice. Fuel goes down by one from one reader to the next. -/
def readSum : Nat → List SumToken → Except SumError (Sum × List SumToken)
  | 0, _ => .error .expectedPrimary
  | fuel + 1, ts =>
    match ts with
    | .name name :: .symbol symbol :: rest =>
      match assignmentOp? symbol with
      | some op => do
        let (value, rest) ← readSum fuel rest
        return (.assignment name op value, rest)
      | none => readChoice fuel ts
    | _ => readChoice fuel ts

/-- One of two expressions by a condition. -/
def readChoice : Nat → List SumToken → Except SumError (Sum × List SumToken)
  | 0, _ => .error .expectedPrimary
  | fuel + 1, ts => do
    let (condition, rest) ← readEither fuel ts
    match rest with
    | .symbol ['?'] :: rest =>
      let (yes, rest) ← readSum fuel rest
      match rest with
      | .symbol [':'] :: rest =>
        let (no, rest) ← readChoice fuel rest
        return (.choice condition yes no, rest)
      | _ => throw (.expected ':')
    | rest => return (condition, rest)

/-- Expressions joined by `||`. -/
def readEither : Nat → List SumToken → Except SumError (Sum × List SumToken)
  | 0, _ => .error .expectedPrimary
  | fuel + 1, ts => do
    let (left, rest) ← readBoth fuel ts
    match rest with
    | .symbol ['|', '|'] :: rest =>
      let (right, rest) ← readEither fuel rest
      return (.either left right, rest)
    | rest => return (left, rest)

/-- Expressions joined by `&&`. -/
def readBoth : Nat → List SumToken → Except SumError (Sum × List SumToken)
  | 0, _ => .error .expectedPrimary
  | fuel + 1, ts => do
    let (left, rest) ← readBinary fuel loosest ts
    match rest with
    | .symbol ['&', '&'] :: rest =>
      let (right, rest) ← readBoth fuel rest
      return (.both left right, rest)
    | rest => return (left, rest)

/-- Expressions joined by operators that bind tighter than a bound. -/
def readBinary : Nat → Nat → List SumToken → Except SumError (Sum × List SumToken)
  | 0, _, _ => .error .expectedPrimary
  | fuel + 1, bound, ts => do
    let (left, rest) ← readPrimary fuel ts
    readBinaryRest fuel bound left rest

/-- What follows the left operand of an operator that binds tighter than a bound. -/
def readBinaryRest : Nat → Nat → Sum → List SumToken → Except SumError (Sum × List SumToken)
  | 0, _, _, _ => .error .expectedPrimary
  | fuel + 1, bound, left, ts =>
    match ts with
    | .symbol symbol :: rest =>
      match binaryOp? symbol with
      | some (op, looseness) =>
        if looseness < bound then do
          let (right, rest) ← readBinary fuel looseness rest
          readBinaryRest fuel bound (.binary op left right) rest
        else return (left, ts)
      | none => return (left, ts)
    | ts => return (left, ts)

/-- A number, a variable, an operator with one operand or an expression in parentheses. -/
def readPrimary : Nat → List SumToken → Except SumError (Sum × List SumToken)
  | 0, _ => .error .expectedPrimary
  | fuel + 1, ts =>
    match ts with
    | .number n :: rest => .ok (.number n, rest)
    | .name name :: rest => .ok (.variable name, rest)
    | .symbol ['('] :: rest => do
      let (e, rest) ← readSum fuel rest
      match rest with
      | .symbol [')'] :: rest => return (e, rest)
      | _ => throw (.expected ')')
    | .symbol symbol :: rest =>
      match unaryOp? symbol with
      | some op => do
        let (operand, rest) ← readPrimary fuel rest
        return (.unary op operand, rest)
      | none => .error .expectedPrimary
    | [] => .error .expectedPrimary

end

/-- The expression that a text is. From one token to the next a reader calls at most seven
others. -/
def Sum.parse (s : Text) : Except SumError Sum := do
  let ts := sumTokens (s.length + 1) s
  match ← readSum (7 * ts.length + 7) ts with
  | (e, []) => return e
  | _ => throw .expectedEnd

/-! ## Evaluation -/

def ofTruth (b : Bool) : Int :=
  if b then 1 else 0

/-- A bitwise operation on integers of 64 bits. -/
def bitwise (f : BitVec 64 → BitVec 64 → BitVec 64) (a b : Int) : Int :=
  (f (BitVec.ofInt 64 a) (BitVec.ofInt 64 b)).toInt

/-- What an operator makes of two numbers. A shift counts modulo the number of bits. -/
def BinaryOp.apply (op : BinaryOp) (a b : Int) : Except SumError Int :=
  match op with
  | .times => .ok (wrap (a * b))
  | .divide => if b = 0 then .error .divisionByZero else .ok (wrap (a.tdiv b))
  | .remainder => if b = 0 then .error .divisionByZero else .ok (wrap (a.tmod b))
  | .plus => .ok (wrap (a + b))
  | .minus => .ok (wrap (a - b))
  | .shiftLeft => .ok (wrap (a * (Nat.pow 2 (b % 64).toNat : Nat)))
  | .shiftRight => .ok (a.fdiv (Nat.pow 2 (b % 64).toNat : Nat))
  | .less => .ok (ofTruth (a < b))
  | .lessEqual => .ok (ofTruth (a ≤ b))
  | .greater => .ok (ofTruth (b < a))
  | .greaterEqual => .ok (ofTruth (b ≤ a))
  | .equal => .ok (ofTruth (a = b))
  | .notEqual => .ok (ofTruth (a ≠ b))
  | .bitAnd => .ok (bitwise (· &&& ·) a b)
  | .bitXor => .ok (bitwise (· ^^^ ·) a b)
  | .bitOr => .ok (bitwise (· ||| ·) a b)

/-- What an operator makes of a number. -/
def UnaryOp.apply (op : UnaryOp) (a : Int) : Int :=
  match op with
  | .plus => a
  | .minus => wrap (-a)
  | .negation => ofTruth (a = 0)
  | .complement => -a - 1

/-- What is known about variables while a sum is evaluated: their values before, and the values that
the sum gave them. -/
structure SumState where
  before? : Text → Option Text
  changes : Store Text Text

namespace SumState

/-- The number that a variable holds. One that is not set is zero. -/
def number (vars : SumState) (name : Text) : Except SumError Int :=
  let content := ((vars.changes.get? name).or (vars.before? name)).getD []
  match parseInteger? content with
  | some n => .ok n
  | none => .error (.illegalNumber content)

def set (vars : SumState) (name : Text) (n : Int) : SumState :=
  { vars with changes := vars.changes.insert name (textOfInt n) }

end SumState

/-- The value of an expression and the variables afterwards. -/
def Sum.eval : Sum → SumState → Except SumError (Int × SumState)
  | .number n, vars => .ok (n, vars)
  | .variable name, vars => return (← vars.number name, vars)
  | .unary op operand, vars => do
    let (a, vars) ← eval operand vars
    return (op.apply a, vars)
  | .binary op left right, vars => do
    let (a, vars) ← eval left vars
    let (b, vars) ← eval right vars
    return (← op.apply a b, vars)
  | .both left right, vars => do
    let (a, vars) ← eval left vars
    -- the right side is left alone if the left one decides
    if a = 0 then return (0, vars)
    let (b, vars) ← eval right vars
    return (ofTruth (b ≠ 0), vars)
  | .either left right, vars => do
    let (a, vars) ← eval left vars
    if a ≠ 0 then return (1, vars)
    let (b, vars) ← eval right vars
    return (ofTruth (b ≠ 0), vars)
  | .choice condition yes no, vars => do
    let (a, vars) ← eval condition vars
    if a ≠ 0 then eval yes vars else eval no vars
  | .assignment name op value, vars => do
    let (new, vars) ← eval value vars
    let n ← match op with
      | none => pure new
      | some op => op.apply (← vars.number name) new
    return (n, vars.set name n)

end Weave.Shell

import Weave.Shell.RegexText
import Weave.Shell.Tool.Basic

/-!
# Weave.Shell.Tool.Calculate — expressions given as arguments

Sums, comparisons and matches whose operands and operators are single arguments, as in
`1 + 2` or `abc : a\(.*\)`.
-/

namespace Weave.Shell.Calculate

/-! ## Values -/

def integer? (s : Text) : Option Int :=
  match s with
  | '-' :: digits => if Text.isDigits digits then some (-(Text.toNat digits : Int)) else none
  | digits => if Text.isDigits digits then some (Text.toNat digits : Int) else none

/-- Whether a value is empty or zero. -/
def isNull (s : Text) : Bool :=
  s.isEmpty || integer? s = some 0

def textOf (n : Int) : Text :=
  if n < 0 then '-' :: Text.ofNat n.natAbs else Text.ofNat n.natAbs

def ofBool (b : Bool) : Text :=
  if b then ['1'] else ['0']

/-! ## Operators -/

/-- An operation on two integers. An error is a complaint. -/
def sum (operator left right : Text) : Except Text Text := do
  match integer? left, integer? right with
  | some a, some b =>
    match String.ofList operator with
    | "+" => return textOf (a + b)
    | "-" => return textOf (a - b)
    | "*" => return textOf (a * b)
    | _ =>
      if b = 0 then throw "division by zero".toList
      else return textOf (if operator = ['/'] then a.tdiv b else a.tmod b)
  | _, _ => throw "non-integer argument".toList

/-- A comparison of two values: as integers if both are, or else as texts. -/
def compare (operator left right : Text) : Text :=
  let order := match integer? left, integer? right with
    | some a, some b => Ord.compare a b
    | _, _ => if left < right then .lt else if left = right then .eq else .gt
  ofBool (match String.ofList operator with
    | "<" => order = .lt
    | "<=" => order ≠ .gt
    | "=" => order = .eq
    | "==" => order = .eq
    | "!=" => order ≠ .eq
    | ">=" => order ≠ .lt
    | _ => order = .gt)

/-- What an expression matches at the start of a text: its first group if it has one, or else how
many characters. -/
def matchStart (s pattern : Text) : Except Text Text := do
  let (r, groups) ← (Regex.parse false pattern).mapError (·.message)
  let found := Regex.furthest? (r.ends false ⟨0, none, s, []⟩)
  if 0 < groups then return (found.bind (·.group? 1)).getD []
  else return Text.ofNat ((found.map (·.index)).getD 0)

/-- The number of the first character that is one of several, from 1 on. -/
def indexOf (s chars : Text) : Text :=
  match s.findIdx? chars.contains with
  | some n => Text.ofNat (n + 1)
  | none => ['0']

def part (s place length : Text) : Text :=
  match integer? place, integer? length with
  | some p, some n => if 1 ≤ p ∧ 1 ≤ n then (s.drop (p.toNat - 1)).take n.toNat else []
  | _, _ => []

/-! ## The grammar -/

/-- The operators with two operands by their levels, the loosest first. -/
def levels : List (List Text) :=
  [["|"], ["&"], ["<", "<=", "=", "==", "!=", ">=", ">"], ["+", "-"], ["*", "/", "%"], [":"]].map
    fun level => level.map String.toList

def apply (operator left right : Text) : Except Text Text :=
  match String.ofList operator with
  | "|" => .ok (if !isNull left then left else if right.isEmpty then ['0'] else right)
  | "&" => .ok (if isNull left || isNull right then ['0'] else left)
  | ":" => matchStart left right
  | _ =>
    if "+-*/%".toList.any fun c => operator = [c] then sum operator left right
    else .ok (compare operator left right)

/-- The arguments that were not read, and the one that was read last. -/
structure Reading where
  rest : List Text
  last : Text
deriving Repr, DecidableEq, Inhabited

/-- Something that is read from arguments. An error is a complaint. -/
abbrev Reader : Type → Type :=
  StateT Reading (Except Text)

def next : Reader Text := do
  let reading ← get
  match reading.rest with
  | a :: rest =>
    set (Reading.mk rest a)
    return a
  | [] => throw ("syntax error: missing argument after ".toList ++ quoted reading.last)

mutual

/-- Operands with operators of some levels between them. Fuel goes down by one from one reader to
the next. -/
def chain : Nat → List (List Text) → Reader Text
  | 0, _ => throw []
  | fuel + 1, [] => operand fuel
  | fuel + 1, operators :: tighter => do
    let first ← chain fuel tighter
    more fuel operators tighter first

/-- The rest of a chain after its first operands, which have come to a value. -/
def more : Nat → List Text → List (List Text) → Text → Reader Text
  | 0, _, _, left => return left
  | fuel + 1, operators, tighter, left => do
    match (← get).rest with
    | operator :: rest =>
      if operators.contains operator then
        set (Reading.mk rest operator)
        let right ← chain fuel tighter
        more fuel operators tighter (← apply operator left right)
      else return left
    | [] => return left

/-- A value, an expression in parentheses or a function. -/
def operand : Nat → Reader Text
  | 0 => throw []
  | fuel + 1 => do
    let a ← next
    match String.ofList a with
    | "(" =>
      let value ← chain fuel levels
      match (← get).rest with
      | [')'] :: rest =>
        set (Reading.mk rest [')'])
        return value
      | other :: _ =>
        throw ("syntax error: expecting \x27)\x27 instead of ".toList ++ quoted other)
      | [] =>
        throw ("syntax error: expecting \x27)\x27 after ".toList ++ quoted (← get).last)
    | ")" => throw "syntax error: unexpected \x27)\x27".toList
    | "+" => next
    | "length" => return Text.ofNat (← operand fuel).length
    | "match" =>
      let s ← operand fuel
      matchStart s (← operand fuel)
    | "index" =>
      let s ← operand fuel
      return indexOf s (← operand fuel)
    | "substr" =>
      let s ← operand fuel
      let place ← operand fuel
      return part s place (← operand fuel)
    | _ => return a

end

def value (args : List Text) : Except Text Text := do
  let (value, reading) ← (chain (20 * args.length + 20) levels).run ⟨args, []⟩
  match reading.rest with
  | extra :: _ => throw ("syntax error: unexpected argument ".toList ++ quoted extra)
  | [] => return value

/-- Prints the value of an expression. The status says whether it is empty or zero. -/
def tool : Tool := fun args =>
  if args.isEmpty then Work.misused "expr".toList "missing operand".toList 2
  else
    match value args with
    | .error message => Work.complain "expr".toList message 2
    | .ok s => do
      Work.print (Text.endLine s)
      Work.worsen (if isNull s then 1 else 0)

end Weave.Shell.Calculate

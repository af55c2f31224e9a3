import Weave.Template.Node
import Weave.Template.Filter

/-!
# Weave.Template.Render — the text of a template

The value of an expression and the text of a template under bindings of names to values. The text
of a value is put out as it is and never read as a template again.
-/

namespace Weave.Template

/-- The values that names are bound to; the first binding of a name counts. -/
abbrev Bindings : Type :=
  List (Text × Value)

/-- The value of a name, undefined if it is not bound. -/
def Bindings.value (bindings : Bindings) (name : Text) : Value :=
  ((bindings.find? (·.1 = name)).map Prod.snd).getD .undefined

/-! ## Operators -/

/-- An integer, which has to fit in 128 bits with a sign. -/
def wholeNumber (n : Int) : Except Error Value :=
  let bound := Int.ofNat (Nat.pow 2 127)
  if -bound ≤ n ∧ n < bound then .ok (.int n) else .error .badOperands

/-- The largest exponent of a power whose base is not 0, 1 or -1. -/
def maxExponent : Nat := 127

def power (base exponent : Int) : Except Error Value :=
  if exponent < 0 then .error .badOperands
  else if exponent.toNat ≤ maxExponent then wholeNumber (base.pow exponent.toNat)
  else if base = 0 ∨ base = 1 then .ok (.int base)
  else if base = -1 then .ok (.int (if exponent % 2 = 0 then 1 else -1))
  else .error .badOperands

/-- The value of an arithmetical operator on numbers. -/
def arithmetic (op : BinaryOp) (n m : Int) : Except Error Value :=
  match op with
  | .add => wholeNumber (n + m)
  | .subtract => wholeNumber (n - m)
  | .multiply => wholeNumber (n * m)
  | .floorDivide => if m = 0 then .error .badOperands else wholeNumber (n / m)
  | .remainder => if m = 0 then .error .badOperands else wholeNumber (n % m)
  | .power => power n m
  | _ => .error .badOperands

/-- The value of an arithmetical operator. Sums put texts and lists together, and truth values
count as zero and one. -/
def combine (op : BinaryOp) (v w : Value) : Except Error Value :=
  match op, v, w with
  | .add, .text s, .text t => .ok (.text (s ++ t))
  | .add, .list xs, .list ys => .ok (.list (xs ++ ys))
  | op, v, w =>
    match v.number?, w.number? with
    | some n, some m => arithmetic op n m
    | _, _ => .error .badOperands

/-- The truth value of a comparison of order. -/
def compare (v w : Value) (holds : Bool → Bool) : Except Error Value :=
  match v.less? w with
  | some b => .ok (.bool (holds b))
  | none => .error .badOperands

/-- The value of an operator whose operands are both evaluated. -/
def applyBinary (op : BinaryOp) (v w : Value) : Except Error Value :=
  match op with
  | .equal => .ok (.bool (v.equal w))
  | .notEqual => .ok (.bool (!v.equal w))
  | .less => compare v w id
  | .greater => compare w v id
  | .lessEqual => compare w v (!·)
  | .greaterEqual => compare v w (!·)
  | .within => return .bool (← isWithin v w)
  | .notWithin => return .bool (!(← isWithin v w))
  | .join => .ok (.text (v.shown ++ w.shown))
  | op => combine op v w

/-- The longest list of numbers that the function `range` gives. -/
def maxRange : Nat := 10000

/-- The numbers from one up to, and without, another. -/
def rangeValue (start stop : Int) : Except Error Value :=
  let n := (stop - start).toNat
  if n ≤ maxRange then .ok (.list ((List.range n).map fun (i : Nat) => .int (start + i)))
  else .error .badOperands

def applyFunction (name : Text) (arguments : List Value) : Except Error Value :=
  if name = "range".toList then
    match arguments with
    | [.int stop] => rangeValue 0 stop
    | [.int start, .int stop] => rangeValue start stop
    | _ => .error (.badArguments name)
  else .error (.unknownFunction name)

/-! ## Constants -/

/-- The value of an operator between constants. Where both sides are known beforehand, `and` gives
the truth value false instead of an operand that counts as false. -/
def foldBinary (op : BinaryOp) (v w : Value) : Option Value :=
  match op with
  | .or => some (if v.isTrue then v else w)
  | .and => some (if v.isTrue && w.isTrue then w else .bool false)
  | op => (applyBinary op v w).toOption

mutual

/-- The value of an expression that can be known before anything is rendered. -/
def constant? : Expr → Option Value
  | .const v => some v
  | .negate e => do
    match ← constant? e with
    | .int n => (wholeNumber (-n)).toOption
    | _ => none
  | .not e => do return .bool !(← constant? e).isTrue
  | .binary op a b => do foldBinary op (← constant? a) (← constant? b)
  | .chain first rest => do constantChain? (← constant? first) rest
  | .list items => do return .list (← constants? items)
  | _ => none

/-- The value of a chain of comparisons of constants. -/
def constantChain? (v : Value) : List (BinaryOp × Expr) → Option Value
  | [] => some (.bool true)
  | (op, e) :: rest => do
    let w ← constant? e
    let holds ← (applyBinary op v w).toOption
    let more ← constantChain? w rest
    return .bool (holds.isTrue && more.isTrue)

def constants? : List Expr → Option (List Value)
  | [] => some []
  | e :: es => do return (← constant? e) :: (← constants? es)

end

/-! ## Expressions -/

mutual

def evaluate (bindings : Bindings) : Expr → Except Error Value
  | .const v => .ok v
  | .variable name => .ok (bindings.value name)
  | .negate e => do
    match ← evaluate bindings e with
    | .int n => wholeNumber (-n)
    | _ => .error .badOperands
  | .not e => return .bool !(← evaluate bindings e).isTrue
  | .binary op a b => do
    let v ← evaluate bindings a
    match op with
    | .or => if v.isTrue then return v else evaluate bindings b
    | .and =>
      -- two constants were joined when the template was read
      match foldBinary .and <$> constant? a <*> constant? b with
      | some (some folded) => return folded
      | _ => if v.isTrue then evaluate bindings b else return v
    | op => applyBinary op v (← evaluate bindings b)
  | .chain first rest => do evaluateChain bindings (← evaluate bindings first) rest
  | .choice condition yes no => do
    if (← evaluate bindings condition).isTrue then evaluate bindings yes
    else evaluate bindings no
  | .list items => return .list (← evaluateAll bindings items)
  | .member e name => do (← evaluate bindings e).member name
  | .item e index => do
    let v ← evaluate bindings e
    v.item (← evaluate bindings index)
  | .slice e start stop => do
    let v ← evaluate bindings e
    let start ← evaluate bindings start
    v.slice start (← evaluate bindings stop)
  | .filter name e arguments named => do
    let v ← evaluate bindings e
    let arguments ← evaluateAll bindings arguments
    applyFilter name v arguments (← evaluateNamed bindings named)
  | .test name e arguments named => do
    let v ← evaluate bindings e
    let arguments ← evaluateAll bindings arguments
    if !(← evaluateNamed bindings named).isEmpty then throw (.badArguments name)
    return .bool (← applyTest name v arguments)
  | .call target arguments named => do
    let arguments ← evaluateAll bindings arguments
    let named ← evaluateNamed bindings named
    match target with
    | .variable name =>
      -- a name that is bound hides the function of that name, and no value can be called
      if !(bindings.value name).isUndefined then .error .notCallable
      else if named.isEmpty then applyFunction name arguments
      else .error (.badArguments name)
    | _ => .error .notCallable

/-- The value of comparisons in a row. The first that does not hold is the last that is tried. -/
def evaluateChain (bindings : Bindings) (v : Value) :
    List (BinaryOp × Expr) → Except Error Value
  | [] => .ok (.bool true)
  | (op, e) :: rest => do
    let w ← evaluate bindings e
    let holds ← applyBinary op v w
    if holds.isTrue then evaluateChain bindings w rest else return holds

/-- The values of expressions, from left to right. -/
def evaluateAll (bindings : Bindings) : List Expr → Except Error (List Value)
  | [] => .ok []
  | e :: es => do
    let v ← evaluate bindings e
    return v :: (← evaluateAll bindings es)

def evaluateNamed (bindings : Bindings) :
    List (Text × Expr) → Except Error (List (Text × Value))
  | [] => .ok []
  | (name, e) :: rest => do
    let v ← evaluate bindings e
    return (name, v) :: (← evaluateNamed bindings rest)

end

/-! ## Nodes -/

/-- The bindings of names to a value: of one name to all of it, of several to its items. -/
def bind (targets : List Text) (v : Value) : Except Error Bindings :=
  match targets with
  | [name] => .ok [(name, v)]
  | names => do
    let items ← v.items
    if items.length = names.length then return names.zip items else .error .badOperands

/-- The values that satisfy the condition of a loop. -/
def chosen (bindings : Bindings) (targets : List Text) (condition : Option Expr)
    (values : List Value) : Except Error (List Value) :=
  match condition with
  | none => .ok values
  | some condition => values.filterM fun v => do
    let bound ← bind targets v
    return (← evaluate (bound ++ bindings) condition).isTrue

/-- Bindings of names to the values of expressions, each of which sees those before it. -/
def bindAll (bindings : Bindings) : List (Text × Expr) → Except Error Bindings
  | [] => .ok bindings
  | (name, e) :: rest => do
    let v ← evaluate bindings e
    bindAll ((name, v) :: bindings) rest

/-- The body of a loop: its text and the bindings after it. -/
abbrev LoopBody : Type :=
  Bindings → Except Error (Text × Bindings)

/-- The text of the rounds of a loop of `total` rounds, from the one with the given index on. What
a round binds the next one still sees. -/
def renderRounds (body : LoopBody) (targets : List Text) (total : Nat) :
    Nat → List Value → Bindings → Except Error Text
  | _, [], _ => .ok []
  | index, v :: values, bindings => do
    let bound ← bind targets v
    let position := ("loop".toList, Value.loop index total)
    let (s, bindings) ← body (bound ++ position :: bindings)
    return s ++ (← renderRounds body targets total (index + 1) values bindings)

mutual

/-- The text of a node and the bindings after it. -/
def renderNode (bindings : Bindings) : Node → Except Error (Text × Bindings)
  | .text s => .ok (s, bindings)
  | .output e => return ((← evaluate bindings e).shown, bindings)
  | .cond condition yes no => do
    if (← evaluate bindings condition).isTrue then renderAll bindings yes
    else renderAll bindings no
  | .loop targets values condition body otherwise => do
    let values ← (← evaluate bindings values).items
    let values ← chosen bindings targets condition values
    -- what is done instead of all rounds stands outside the loop
    if values.isEmpty then renderAll bindings otherwise
    else
      let s ← renderRounds (fun bindings => renderAll bindings body) targets values.length 0 values
        bindings
      return (s, bindings)
  | .set targets e => do
    let bound ← bind targets (← evaluate bindings e)
    return ([], bound ++ bindings)
  | .setText target filtered body => do
    let (s, bindings) ← renderAll bindings body
    let v ← evaluate ((bodyName, .text s) :: bindings) filtered
    return ([], (target, v) :: bindings)
  | .local names body => do
    let inner ← bindAll bindings names
    return ((← renderAll inner body).1, bindings)
  | .filtered e body => do
    let (s, bindings) ← renderAll bindings body
    return ((← evaluate ((bodyName, .text s) :: bindings) e).shown, bindings)

/-- The text of nodes one after another and the bindings after them. -/
def renderAll (bindings : Bindings) : List Node → Except Error (Text × Bindings)
  | [] => .ok ([], bindings)
  | n :: ns => do
    let (s, bindings) ← renderNode bindings n
    let (t, bindings) ← renderAll bindings ns
    return (s ++ t, bindings)

end

def render (bindings : Bindings) (template : Text) : Except Error Text := do
  let nodes ← Node.ofTemplate? template
  return (← renderAll bindings nodes).1

end Weave.Template

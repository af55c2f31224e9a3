import Weave.Template.Error
import Weave.Text.Blank
import Weave.Text.Quoted

/-!
# Weave.Template.Value — the values of a template

What the expressions of a template stand for. A name that is bound to nothing has the undefined
value: it is shown as nothing and has no items, but asking for a part of it is an error.
-/

namespace Weave.Template

inductive Value where
  | undefined
  | none
  | bool (value : Bool)
  | int (value : Int)
  | text (value : Text)
  | list (items : List Value)
  /-- The position in a loop: how many rounds are over, and how many there are. -/
  | loop (index length : Nat)
deriving Repr, Inhabited

namespace Value

/-! ## Showing values -/

/-- The digits of an integer, with a sign if it is negative. -/
def ofInt : Int → Text
  | .ofNat n => Text.ofNat n
  | .negSucc n => '-' :: Text.ofNat (n + 1)

mutual

/-- The text of a value inside a list, where texts are quoted. -/
def quoted : Value → Text
  | .undefined => "Undefined".toList
  | .none => "None".toList
  | .bool b => if b then "True".toList else "False".toList
  | .int n => ofInt n
  | .text s => Text.quote s
  | .list items => '[' :: quotedItems items ++ [']']
  | .loop _ _ => "loop".toList

/-- The texts of the items of a list, separated by commas. -/
def quotedItems : List Value → Text
  | [] => []
  | v :: vs => quoted v ++ (if vs.isEmpty then [] else ", ".toList ++ quotedItems vs)

end

def shown : Value → Text
  | .undefined => []
  | .text s => s
  | v => quoted v

/-! ## Questions about values -/

def isTrue : Value → Bool
  | .undefined => false
  | .none => false
  | .bool b => b
  | .int n => n ≠ 0
  | .text s => !s.isEmpty
  | .list items => !items.isEmpty
  | .loop _ _ => true

/-- Whether a value is the undefined one. -/
def isUndefined : Value → Bool
  | .undefined => true
  | _ => false

/-- The number that a value is; truth values count as zero and one. -/
def number? : Value → Option Int
  | .bool b => some (if b then 1 else 0)
  | .int n => some n
  | _ => Option.none

mutual

def equal : Value → Value → Bool
  | .undefined, .undefined => true
  | .none, .none => true
  | .text s, .text t => s = t
  | .list xs, .list ys => equalItems xs ys
  | .loop i n, .loop j m => i = j && n = m
  | .bool b, w => w.number? = some (if b then 1 else 0)
  | .int n, w => w.number? = some n
  | _, _ => false

def equalItems : List Value → List Value → Bool
  | [], [] => true
  | x :: xs, y :: ys => equal x y && equalItems xs ys
  | _, _ => false

end

/-- Whether the first value comes before the second: numbers by size, texts by characters. -/
def less? (v w : Value) : Option Bool :=
  match v.number?, w.number? with
  | some n, some m => some (n < m)
  | _, _ =>
    match v, w with
    | .text s, .text t => some (decide (s < t))
    | _, _ => Option.none

/-! ## Parts of values -/

/-- The values that a loop over this value goes through. -/
def items? : Value → Option (List Value)
  | .undefined => some []
  | .none => some []
  | .text s => some (s.map fun c => .text [c])
  | .list items => some items
  | _ => Option.none

/-- The number of characters of a text or of items of a list. -/
def length? : Value → Option Nat
  | .text s => some s.length
  | .list items => some items.length
  | _ => Option.none

/-- The item at a position, counted from the end if it is negative. -/
def itemAt (items : List Value) (i : Int) : Value :=
  let i := if i < 0 then i + items.length else i
  if i < 0 then .undefined else items.getD i.toNat .undefined

def item (v index : Value) : Except Error Value :=
  match v, index.number? with
  | .undefined, _ => .error .undefinedValue
  | .text s, some i => .ok (itemAt (s.map fun c => .text [c]) i)
  | .list items, some i => .ok (itemAt items i)
  | _, _ => .ok .undefined

/-- The part of a value under a name. Only the position in a loop has such parts. -/
def member (v : Value) (name : Text) : Except Error Value :=
  match v with
  | .undefined => .error .undefinedValue
  | .loop i n => .ok <|
    if name = "index".toList then .int (i + 1)
    else if name = "index0".toList then .int i
    else if name = "revindex".toList then .int (n - i)
    else if name = "revindex0".toList then .int (n - i - 1)
    else if name = "first".toList then .bool (i = 0)
    else if name = "last".toList then .bool (i + 1 = n)
    else if name = "length".toList then .int n
    else .undefined
  | _ => .ok .undefined

/-- A bound of a slice as a position between 0 and `n`. -/
def bound (n : Nat) (i : Int) : Nat :=
  min n (if i < 0 then i + n else i).toNat

/-- The items from one position up to, and without, another one. -/
def cut {α : Type} (items : List α) (start stop : Option Int) : List α :=
  let n := items.length
  let first := (start.map (bound n)).getD 0
  let last := (stop.map (bound n)).getD n
  (items.take last).drop first

/-- A bound of a slice, which is absent or an integer. -/
def bound? : Value → Except Error (Option Int)
  | .undefined => .ok Option.none
  | .none => .ok Option.none
  | .int n => .ok (some n)
  | _ => .error .badOperands

/-- The slice of a value between two bounds. -/
def slice (v start stop : Value) : Except Error Value := do
  let start ← bound? start
  let stop ← bound? stop
  match v with
  | .undefined => return .list []
  | .none => return .list []
  | .text s => return .text (cut s start stop)
  | .list items => return .list (cut items start stop)
  | _ => .error .badOperands

end Value

end Weave.Template

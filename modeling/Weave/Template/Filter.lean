import Weave.Template.Value
import Weave.Text.LetterCase

/-!
# Weave.Template.Filter — filters and tests

A filter turns a value into another one, a test answers a question about a value. Where a filter
needs a text it takes the shown text of any value, but only a text has lines. An argument too many
or too few is an error, and so is a name that no filter or test has.
-/

namespace Weave.Template

/-! ## Texts -/

/-- Every occurrence of `old` replaced, from left to right. An empty `old` occurs around every
character. -/
def replaceAll (old new : Text) (s : Text) : Text :=
  if old.isEmpty then new ++ s.flatMap (fun c => c :: new)
  else
    match s with
    | [] => []
    | c :: cs =>
      if old.isPrefixOf (c :: cs) then new ++ replaceAll old new (cs.drop (old.length - 1))
      else c :: replaceAll old new cs
termination_by s.length
decreasing_by all_goals simp; try omega

/-- The lines of a text without their terminators, which are a line feed or a carriage return with
one. -/
def bareLines (s : Text) : List Text :=
  (Text.lines s).map fun l => if l.getLast? = some '\n' then Text.chomp l else l

/-- The text with `width` spaces at the start of each line. Blank lines get them only if
`blank` is set and the first line only if `first` is. One terminator at the end goes. -/
def indent (width : Nat) (first blank : Bool) (s : Text) : Text :=
  let margin := List.replicate width ' '
  let put := fun l : Text => if l.isEmpty && !blank then l else margin ++ l
  let indented := match (Text.chomp s).splitOnP (· = '\n') with
    | [] => []
    | l :: ls => (if first then put l else l) :: ls.map put
  Text.chomp (indented.flatMap Text.endLine)

/-! ## Arguments -/

/-- An argument that may be missing and has to be a truth value otherwise. -/
def flag? : Option Value → Except Error Bool
  | none => .ok false
  | some .undefined => .ok false
  | some .none => .ok false
  | some (.bool b) => .ok b
  | some _ => .error .badOperands

/-- An argument that may be missing and has to be a count otherwise. -/
def count? (default : Nat) : Option Value → Except Error Nat
  | none => .ok default
  | some .undefined => .ok default
  | some .none => .ok default
  | some v =>
    match v.number? with
    | some n => if 0 ≤ n then .ok n.toNat else .error .badOperands
    | none => .error .badOperands

/-- The arguments for the parameters with the given names, each by its position or by its name. An
argument without a parameter, or a second one for the same, is an error. -/
def placed (filter : Text) : List String → List Value → List (Text × Value) →
    Except Error (List (Option Value))
  | [], [], [] => .ok []
  | [], _, _ => .error (.badArguments filter)
  | name :: names, v :: values, named =>
    if named.any (·.1 = name.toList) then .error (.badArguments filter)
    else do return some v :: (← placed filter names values named)
  | name :: names, [], named => do
    let found := named.find? (·.1 = name.toList)
    let others := named.filter (·.1 ≠ name.toList)
    if others.length + 1 < named.length then throw (.badArguments filter)
    return found.map Prod.snd :: (← placed filter names [] others)

/-- The items of a value that can be gone through. -/
def Value.items (v : Value) : Except Error (List Value) :=
  match v.items? with
  | some items => .ok items
  | Option.none => .error .notIterable

/-- The texts put together with `separator` between them. -/
def joinWith (separator : Text) (texts : List Text) : Text :=
  (texts.intersperse separator).flatten

/-! ## Filters -/

def usualIndent : Nat := 4

def applyIndent (v : Value) (arguments : List Value) (named : List (Text × Value)) :
    Except Error Value := do
  let placed ← placed "indent".toList ["width", "first", "blank"] arguments named
  let width ← count? usualIndent (placed.getD 0 none)
  let first ← flag? (placed.getD 1 none)
  let blank ← flag? (placed.getD 2 none)
  return .text (indent width first blank v.shown)

/-- The value that a filter gives whose arguments have no names. -/
def applyPositional (name : Text) (v : Value) (arguments : List Value) : Except Error Value :=
  match String.ofList name, arguments with
  | "upper", [] => .ok (.text (Text.upper v.shown))
  | "lower", [] => .ok (.text (Text.lower v.shown))
  | "trim", [] => .ok (.text (Text.trim v.shown))
  | "trim", [chars] =>
    match chars with
    | .undefined => .ok (.text (Text.trim v.shown))
    | .none => .ok (.text (Text.trim v.shown))
    | _ =>
      let p := fun c => chars.shown.contains c
      .ok (.text (Text.trimEndWhere p (Text.trimStartWhere p v.shown)))
  | "length", [] | "count", [] =>
    match v.length? with
    | some n => .ok (.int n)
    | none => .error .badOperands
  | "replace", [old, new] => .ok (.text (replaceAll old.shown new.shown v.shown))
  | "default", args | "d", args =>
    match args with
    | [] => .ok (if v.isUndefined then .text [] else v)
    | [other] => .ok (if v.isUndefined then other else v)
    | [other, lax] => do
      let lax ← flag? lax
      return if v.isUndefined || (lax && !v.isTrue) then other else v
    | _ => .error (.badArguments name)
  | "lines", [] =>
    match v with
    | .text s => .ok (.list ((bareLines s).map .text))
    | _ => .error .badOperands
  | "string", [] => .ok (.text v.shown)
  | "list", [] => return .list (← v.items)
  | "first", [] => return (← v.items).head?.getD .undefined
  | "last", [] => return (← v.items).getLast?.getD .undefined
  | "reverse", [] =>
    match v with
    | .text s => .ok (.text s.reverse)
    | _ => return .list (← v.items).reverse
  | "join", args => do
    if 1 < args.length then .error (.badArguments name)
    let separator := (args.head?.map Value.shown).getD []
    return .text (joinWith separator ((← v.items).map Value.shown))
  -- a filter that exists was given the wrong number of arguments
  | known, _ =>
    if ["upper", "lower", "trim", "length", "count", "replace", "lines", "string", "list", "first",
        "last", "reverse"].contains known then .error (.badArguments name)
    else .error (.unknownFilter name)

def applyFilter (name : Text) (v : Value) (arguments : List Value)
    (named : List (Text × Value)) : Except Error Value :=
  if name = "indent".toList then applyIndent v arguments named
  else if named.isEmpty then applyPositional name v arguments
  else .error (.badArguments name)

/-! ## Tests -/

/-- Whether the first value is part of the second. -/
def isWithin (v : Value) : Value → Except Error Bool
  | .undefined => .ok false
  | .none => .ok false
  | .text s => .ok (Text.splitAround? v.shown s).isSome
  | .list items => .ok (items.any (v.equal ·))
  | _ => .error .notIterable

def applyTest (name : Text) (v : Value) (arguments : List Value) : Except Error Bool :=
  match String.ofList name, arguments with
  | "defined", [] => .ok (!v.isUndefined)
  | "undefined", [] => .ok v.isUndefined
  | "none", [] => .ok (match v with | .none => true | _ => false)
  | "true", [] => .ok (match v with | .bool b => b | _ => false)
  | "false", [] => .ok (match v with | .bool b => !b | _ => false)
  | "boolean", [] => .ok (match v with | .bool _ => true | _ => false)
  | "string", [] => .ok (match v with | .text _ => true | _ => false)
  | "number", [] | "integer", [] => .ok (match v with | .int _ => true | _ => false)
  | "sequence", [] => .ok (match v with | .list _ => true | _ => false)
  | "iterable", [] => .ok (match v with | .text _ => true | .list _ => true | _ => false)
  | "odd", [] => .ok (match v with | .int n => n % 2 = 1 | _ => false)
  | "even", [] => .ok (match v with | .int n => n % 2 = 0 | _ => false)
  | "eq", [w] | "equalto", [w] => .ok (v.equal w)
  | "ne", [w] => .ok (!v.equal w)
  | "in", [w] => isWithin v w
  | "startingwith", [w] => .ok (w.shown.isPrefixOf v.shown)
  | "endingwith", [w] => .ok (w.shown.reverse.isPrefixOf v.shown.reverse)
  -- a test that exists was given the wrong number of arguments
  | known, _ =>
    if ["defined", "undefined", "none", "true", "false", "boolean", "string", "number", "integer",
        "sequence", "iterable", "odd", "even", "eq", "equalto", "ne", "in", "startingwith",
        "endingwith"].contains known then .error (.badArguments name)
    else .error (.unknownTest name)

end Weave.Template

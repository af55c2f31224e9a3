import Weave.Template.Expr

/-!
# Weave.Template.Node — the statements of a template

A template as a tree: text, values to put out, conditions, loops and assignments. `Node.ofTemplate?`
reads it from the text; every statement that opens a body is closed by a statement of its own.
-/

namespace Weave.Template

/-! ## Trees -/

inductive Node where
  | text (content : Text)
  | output (value : Expr)
  | cond (condition : Expr) (yes no : List Node)
  /-- A loop with the names for each item, the values to go through, a condition that chooses
  among them, and what to do when there are none. -/
  | loop (targets : List Text) (values : Expr) (condition : Option Expr)
    (body otherwise : List Node)
  | set (targets : List Text) (value : Expr)
  /-- The text of the body, bound to a name after the filters were applied to it. -/
  | setText (target : Text) (filtered : Expr) (body : List Node)
  /-- The body with local names. -/
  | local (bindings : List (Text × Expr)) (body : List Node)
  /-- The text of the body after the filters were applied to it. -/
  | filtered (value : Expr) (body : List Node)
deriving Repr, Inhabited

/-- The name under which the filters of a body see its text. It is no name of a template. -/
def bodyName : Text :=
  ['%']

/-- The names that nothing can be assigned to. -/
def reservedNames : List Text :=
  ["true", "True", "false", "False", "none", "None", "loop", "self"].map String.toList

/-! ## Heads of statements -/

def expectEnd : List Token → Except Error Unit
  | [] => .ok ()
  | _ :: _ => .error .malformedTag

/-- The names before `until`, separated by commas and perhaps in parentheses. -/
def readTargets : List Token → Except Error (List Text × List Token)
  | .name n :: ts =>
    if reservedNames.contains n then .error .malformedTag
    else
      match ts with
      | .mark [','] :: .name m :: ts => do
        let (names, ts) ← readTargets (.name m :: ts)
        return (n :: names, ts)
      | _ => .ok ([n], ts)
  | _ => .error .malformedTag

/-- The targets of an assignment or a loop. -/
def readAssigned (tokens : List Token) : Except Error (List Text × List Token) :=
  match skip? (.sym "(") tokens with
  | none => readTargets tokens
  | some ts => do
    let (names, ts) ← readTargets ts
    let ts ← expect (.sym ")") ts
    return (names, ts)

/-- The bindings of a `with` statement. The number of tokens is fuel enough. -/
def readBindings (depth : Nat) : Nat → List Token → Except Error (List (Text × Expr))
  | _, [] => .ok []
  | 0, _ :: _ => .error .malformedTag
  | fuel + 1, ts => do
    let (name, ts) ← expectName ts
    let ts ← expect (.sym "=") ts
    let (value, ts) ← Expr.read depth ts
    match skip? (.sym ",") ts with
    | some rest => return (name, value) :: (← readBindings depth fuel rest)
    | none =>
      expectEnd ts
      return [(name, value)]

/-- The filters that are named without a target, applied to the text of a body. -/
def readFilterChain (depth : Nat) (tokens : List Token) : Except Error Expr :=
  Expr.ofTokens? depth (.name bodyName :: .sym "|" :: tokens)

def readLoopValues (depth : Nat) (tokens : List Token) : Except Error (Expr × Option Expr) := do
  let (values, ts) ← parseLevel (parseFuel tokens) depth 0 tokens
  match skip? (.word "if") ts with
  | some ts => return (values, some (← Expr.ofTokens? depth ts))
  | none =>
    expectEnd ts
    return (values, none)

/-! ## The grammar -/

def beginsWith (names : List Text) : List Token → Bool
  | .name n :: _ => names.contains n
  | _ => false

/-- What ends a body: the statement that closed it, or the end of the template. -/
abbrev BodyEnd : Type :=
  Option (List Token)

/-- The closing statement, which has to exist. -/
def expectClosed (bodyEnd : BodyEnd) : Except Error (List Token) :=
  match bodyEnd with
  | some tokens => .ok tokens
  | none => .error (.unclosed "block".toList)

mutual

/-- The nodes up to a statement that begins with one of `ends`, that statement, and the segments
after it, all inside `depth` statements. Here and below each call of a reader by another takes one
unit of fuel. -/
def readBody : Nat → Nat → List Text → List Segment →
    Except Error (List Node × BodyEnd × List Segment)
  | 0, _, _, _ => .error .malformedTag
  | _ + 1, _, _, [] => .ok ([], none, [])
  | fuel + 1, depth, ends, .text s :: rest => do
    let (nodes, bodyEnd, rest) ← readBody fuel depth ends rest
    return (.text s :: nodes, bodyEnd, rest)
  | fuel + 1, depth, ends, .output tokens :: rest => do
    let e ← Expr.ofTokens? depth tokens
    let (nodes, bodyEnd, rest) ← readBody fuel depth ends rest
    return (.output e :: nodes, bodyEnd, rest)
  | fuel + 1, depth, ends, .statement tokens :: rest =>
    if beginsWith ends tokens then .ok ([], some tokens, rest)
    else if maxNesting ≤ depth then .error .tooDeep
    else do
      let (node, rest) ← readStatement fuel (depth + 1) tokens rest
      let (nodes, bodyEnd, rest) ← readBody fuel depth ends rest
      return (node :: nodes, bodyEnd, rest)

/-- The body up to the statement that consists of one name. -/
def readClosedBody : Nat → Nat → Text → List Segment → Except Error (List Node × List Segment)
  | 0, _, _, _ => .error .malformedTag
  | fuel + 1, depth, name, segments => do
    let (nodes, bodyEnd, rest) ← readBody fuel depth [name] segments
    let tokens ← expectClosed bodyEnd
    expectEnd tokens.tail
    return (nodes, rest)

/-- The node of a statement whose tokens were read, with its body. The depth counts the statement
itself. -/
def readStatement : Nat → Nat → List Token → List Segment → Except Error (Node × List Segment)
  | 0, _, _, _ => .error .malformedTag
  | fuel + 1, depth, .name n :: ts, rest =>
    if n = "if".toList then readCondition fuel depth ts rest
    else if n = "for".toList then do
      let (targets, ts) ← readAssigned ts
      let ts ← expect (.word "in") ts
      let (values, condition) ← readLoopValues depth ts
      let (body, bodyEnd, rest) ← readBody fuel depth ["endfor".toList, "else".toList] rest
      let closing ← expectClosed bodyEnd
      expectEnd closing.tail
      -- what stands for the loop where it has no values
      if closing = [.word "else"] then
        let (otherwise, rest) ← readClosedBody fuel depth "endfor".toList rest
        return (.loop targets values condition body otherwise, rest)
      else return (.loop targets values condition body [], rest)
    else if n = "set".toList then do
      let (targets, ts) ← readAssigned ts
      match skip? (.sym "=") ts, targets with
      | some ts, _ => return (.set targets (← Expr.ofTokens? depth ts), rest)
      -- without a value the text up to the end of the block is assigned
      | none, [target] =>
        let filtered ← match skip? (.sym "|") ts with
          | some ts => readFilterChain depth ts
          | none => do
            expectEnd ts
            pure (.variable bodyName)
        let (body, rest) ← readClosedBody fuel depth "endset".toList rest
        return (.setText target filtered body, rest)
      | none, _ => .error .malformedTag
    else if n = "with".toList then do
      let bindings ← readBindings depth ts.length ts
      let (body, rest) ← readClosedBody fuel depth "endwith".toList rest
      return (.local bindings body, rest)
    else if n = "filter".toList then do
      let value ← readFilterChain depth ts
      let (body, rest) ← readClosedBody fuel depth "endfilter".toList rest
      return (.filtered value body, rest)
    else .error (.unknownTag n)
  | _ + 1, _, _, _ => .error .malformedTag

/-- The rest of a condition after `if` or `elif`. All its branches are equally deep. -/
def readCondition : Nat → Nat → List Token → List Segment → Except Error (Node × List Segment)
  | 0, _, _, _ => .error .malformedTag
  | fuel + 1, depth, ts, rest => do
    let condition ← Expr.ofTokens? depth ts
    let (yes, bodyEnd, rest) ←
      readBody fuel depth ["elif".toList, "else".toList, "endif".toList] rest
    let closing ← expectClosed bodyEnd
    if beginsWith ["elif".toList] closing then
      let (no, rest) ← readCondition fuel depth closing.tail rest
      return (.cond condition yes [no], rest)
    else
      expectEnd closing.tail
      if closing = [.word "else"] then
        let (no, rest) ← readClosedBody fuel depth "endif".toList rest
        return (.cond condition yes no, rest)
      else return (.cond condition yes [], rest)

end

/-- The tree of a template. Between two segments that are taken a reader calls at most three
others. -/
def Node.ofSegments? (segments : List Segment) : Except Error (List Node) :=
  (readBody (3 * segments.length + 3) 0 [] segments).map Prod.fst

def Node.ofTemplate? (template : Text) : Except Error (List Node) := do
  Node.ofSegments? (← Segment.ofTemplate? template)

end Weave.Template

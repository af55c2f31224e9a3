import Weave.Template.Token
import Weave.Template.Value

/-!
# Weave.Template.Expr — the expressions of a template

Expressions and their grammar over tokens. From the loosest to the tightest binding:
`a if b else c`, `or`, `and`, `not`, comparisons, `+ -`, `~`, `* / // %`, `**`, the minus sign,
parts and calls, filters and tests. Operators of two operands group to the left, but several
comparisons in a row hold each between its own neighbours.
-/

namespace Weave.Template

/-! ## Expressions -/

/-- An operator between two operands. -/
inductive BinaryOp where
  | or | and
  | equal | notEqual | less | lessEqual | greater | greaterEqual | within | notWithin
  | add | subtract | join | multiply | divide | floorDivide | remainder | power
deriving Repr, DecidableEq, Inhabited

/-- An expression. Filters, tests and calls have arguments by position and by name. -/
inductive Expr where
  | const (value : Value)
  | variable (name : Text)
  | negate (operand : Expr)
  | not (operand : Expr)
  | binary (op : BinaryOp) (left right : Expr)
  /-- Comparisons in a row: the first operand, and each operator with its right operand. -/
  | chain (first : Expr) (rest : List (BinaryOp × Expr))
  | choice (condition yes no : Expr)
  | list (items : List Expr)
  | member (target : Expr) (name : Text)
  | item (target index : Expr)
  | slice (target start stop : Expr)
  | filter (name : Text) (target : Expr) (arguments : List Expr) (named : List (Text × Expr))
  | test (name : Text) (target : Expr) (arguments : List Expr) (named : List (Text × Expr))
  | call (target : Expr) (arguments : List Expr) (named : List (Text × Expr))
deriving Repr, Inhabited

/-! ## Single tokens -/

/-- The tokens after `token`, if they start with it. -/
def skip? (token : Token) : List Token → Option (List Token)
  | [] => none
  | t :: ts => if t = token then some ts else none

/-- The tokens after `token`, with which they have to start. -/
def expect (token : Token) (tokens : List Token) : Except Error (List Token) :=
  match skip? token tokens with
  | some rest => .ok rest
  | none => .error .malformedTag

/-- The name that the tokens start with. -/
def expectName : List Token → Except Error (Text × List Token)
  | .name n :: ts => .ok (n, ts)
  | _ => .error .malformedTag

/-- The levels of binding of the operators with two operands, loosest first. The level of `not`
holds no such operator. -/
def operatorLevels : List (List (List Token × BinaryOp)) :=
  [[([.word "or"], .or)],
   [([.word "and"], .and)],
   [],
   [([.sym "=="], .equal), ([.sym "!="], .notEqual), ([.sym "<="], .lessEqual),
    ([.sym "<"], .less), ([.sym ">="], .greaterEqual), ([.sym ">"], .greater),
    ([.word "in"], .within), ([.word "not", .word "in"], .notWithin)],
   [([.sym "+"], .add), ([.sym "-"], .subtract)],
   [([.sym "~"], .join)],
   [([.sym "*"], .multiply), ([.sym "//"], .floorDivide), ([.sym "/"], .divide),
    ([.sym "%"], .remainder)],
   [([.sym "**"], .power)]]

def notLevel : Nat := 2

def comparisonLevel : Nat := 3

/-- The operator of a level that the tokens start with, and the tokens after it. -/
def operator? (level : Nat) (tokens : List Token) : Option (BinaryOp × List Token) :=
  (operatorLevels.getD level []).findSome? fun (marks, op) =>
    (marks.isPrefixOf? tokens).map (op, ·)

def namedConstant? (name : Text) : Option Value :=
  if name = "true".toList || name = "True".toList then some (.bool true)
  else if name = "false".toList || name = "False".toList then some (.bool false)
  else if name = "none".toList || name = "None".toList then some .none
  else none

/-- Whether a token after the name of a test starts an argument without parentheses. -/
def startsArgument : Token → Bool
  | .name n => !(["and", "or", "else", "is"].contains (String.ofList n))
  | .string _ => true
  | .int _ => true
  | .mark m => m = ['+'] || m = ['-'] || m = ['['] || m = ['\x7b']

/-- The comparisons of a chain. A single one is an operator like others. -/
def Expr.ofComparisons (first : Expr) : List (BinaryOp × Expr) → Expr
  | [] => first
  | [(op, second)] => .binary op first second
  | rest => .chain first rest

/-- The texts of string literals that stand next to each other, put together. -/
def adjacentStrings : List Token → Text × List Token
  | .string s :: ts =>
    let (more, ts) := adjacentStrings ts
    (s ++ more, ts)
  | ts => ([], ts)

/-- How deeply statements and the brackets of expressions may be nested. -/
def maxNesting : Nat := 150

/-! ## The grammar -/

mutual

/-- An expression inside `depth` statements and brackets. Here and below each call of a parser by
another takes one unit of fuel. -/
def parseExpr : Nat → Nat → List Token → Except Error (Expr × List Token)
  | 0, _, _ => .error .malformedTag
  | fuel + 1, depth, ts => do
    let (e, ts) ← parseLevel fuel depth 0 ts
    parseChoices fuel depth e ts

/-- The conditions that follow an expression. Without `else` the choice is between the
expression and the undefined value. -/
def parseChoices : Nat → Nat → Expr → List Token → Except Error (Expr × List Token)
  | 0, _, _, _ => .error .malformedTag
  | fuel + 1, depth, e, ts =>
    match skip? (.word "if") ts with
    | none => .ok (e, ts)
    | some ts => do
      let (condition, ts) ← parseLevel fuel depth 0 ts
      match skip? (.word "else") ts with
      | none => parseChoices fuel depth (.choice condition e (.const .undefined)) ts
      | some ts =>
        let (no, ts) ← parseExpr fuel depth ts
        parseChoices fuel depth (.choice condition e no) ts

/-- An expression that binds at least as tightly as a level. -/
def parseLevel : Nat → Nat → Nat → List Token → Except Error (Expr × List Token)
  | 0, _, _, _ => .error .malformedTag
  | fuel + 1, depth, level, ts =>
    if operatorLevels.length ≤ level then parseOperand fuel depth ts
    else
      match (if level = notLevel then skip? (.word "not") ts else none) with
      | some ts => do
        let (e, ts) ← parseLevel fuel depth level ts
        return (.not e, ts)
      | none => do
        let (e, ts) ← parseLevel fuel depth (level + 1) ts
        if level = comparisonLevel then
          let (rest, ts) ← parseComparisons fuel depth ts
          return (.ofComparisons e rest, ts)
        else parseOperators fuel depth level e ts

/-- The operators of a level that follow an expression, with their right operands. -/
def parseOperators : Nat → Nat → Nat → Expr → List Token → Except Error (Expr × List Token)
  | 0, _, _, _, _ => .error .malformedTag
  | fuel + 1, depth, level, left, ts =>
    match operator? level ts with
    | none => .ok (left, ts)
    | some (op, ts) => do
      let (right, ts) ← parseLevel fuel depth (level + 1) ts
      parseOperators fuel depth level (.binary op left right) ts

/-- The comparisons that follow an expression, with their right operands. -/
def parseComparisons :
    Nat → Nat → List Token → Except Error (List (BinaryOp × Expr) × List Token)
  | 0, _, _ => .error .malformedTag
  | fuel + 1, depth, ts =>
    match operator? comparisonLevel ts with
    | none => .ok ([], ts)
    | some (op, ts) => do
      let (right, ts) ← parseLevel fuel depth (comparisonLevel + 1) ts
      let (rest, ts) ← parseComparisons fuel depth ts
      return ((op, right) :: rest, ts)

/-- An operand: a signed primary expression, its parts, and the filters and tests on it. -/
def parseOperand : Nat → Nat → List Token → Except Error (Expr × List Token)
  | 0, _, _ => .error .malformedTag
  | fuel + 1, depth, ts => do
    let (e, ts) ← parseSigned fuel depth ts
    let (e, ts) ← parseParts fuel depth e ts
    parseFilters fuel depth e ts

/-- A primary expression after any number of minus signs. -/
def parseSigned : Nat → Nat → List Token → Except Error (Expr × List Token)
  | 0, _, _ => .error .malformedTag
  | fuel + 1, depth, ts =>
    match skip? (.sym "-") ts with
    | none => parsePrimary fuel depth ts
    | some ts => do
      let (e, ts) ← parseSigned fuel depth ts
      return (.negate e, ts)

/-- A literal, a name, a list or an expression in parentheses. -/
def parsePrimary : Nat → Nat → List Token → Except Error (Expr × List Token)
  | 0, _, _ => .error .malformedTag
  | fuel + 1, depth, ts =>
    if maxNesting ≤ depth then .error .tooDeep
    else
      match ts with
      | [] => .error .malformedTag
      | .name n :: ts =>
        match namedConstant? n with
        | some v => .ok (.const v, ts)
        | none => .ok (.variable n, ts)
      | .string s :: ts =>
        let (more, ts) := adjacentStrings ts
        .ok (.const (.text (s ++ more)), ts)
      | .int n :: ts => .ok (.const (.int n), ts)
      | .mark m :: ts =>
        -- parentheses around one expression do not make a list of it
        if m = ['('] then do
          let (items, isTuple, ts) ← parseItems fuel (depth + 1) (.sym ")") ts
          match items, isTuple with
          | [e], false => return (e, ts)
          | _, _ => return (.list items, ts)
        else if m = ['['] then do
          let (items, _, ts) ← parseItems fuel (depth + 1) (.sym "]") ts
          return (.list items, ts)
        else .error .malformedTag

/-- Expressions separated by commas up to a closing mark, and whether there was a comma or
nothing. -/
def parseItems :
    Nat → Nat → Token → List Token → Except Error (List Expr × Bool × List Token)
  | 0, _, _, _ => .error .malformedTag
  | fuel + 1, depth, close, ts =>
    match skip? close ts with
    | some ts => .ok ([], true, ts)
    | none => do
      let (e, ts) ← parseExpr fuel depth ts
      match skip? (.sym ",") ts with
      | some ts =>
        let (es, _, ts) ← parseItems fuel depth close ts
        return (e :: es, true, ts)
      | none =>
        let ts ← expect close ts
        return ([e], false, ts)

/-- The attributes, indices, slices and calls that follow an expression. -/
def parseParts : Nat → Nat → Expr → List Token → Except Error (Expr × List Token)
  | 0, _, _, _ => .error .malformedTag
  | fuel + 1, depth, e, ts =>
    match skip? (.sym ".") ts with
    | some (.name n :: ts) => parseParts fuel depth (.member e n) ts
    | some (.int n :: ts) => parseParts fuel depth (.item e (.const (.int n))) ts
    | some _ => .error .malformedTag
    | none =>
      match skip? (.sym "[") ts with
      | some ts => do
        let (e, ts) ← parseIndex fuel depth e ts
        parseParts fuel depth e ts
      | none =>
        match skip? (.sym "(") ts with
        | some ts => do
          let (arguments, named, ts) ← parseCallArguments fuel depth ts
          parseParts fuel depth (.call e arguments named) ts
        | none => .ok (e, ts)

/-- The rest of an index or a slice after its opening bracket. -/
def parseIndex : Nat → Nat → Expr → List Token → Except Error (Expr × List Token)
  | 0, _, _, _ => .error .malformedTag
  | fuel + 1, depth, e, ts => do
    let (start, ts) ← parseBound fuel depth ts
    match skip? (.sym ":") ts with
    | some ts =>
      let (stop, ts) ← parseBound fuel depth ts
      let ts ← expect (.sym "]") ts
      return (.slice e (start.getD (.const .none)) (stop.getD (.const .none)), ts)
    | none =>
      let ts ← expect (.sym "]") ts
      match start with
      | some index => return (.item e index, ts)
      | none => .error .malformedTag

/-- An expression before a colon or a closing bracket, which may be absent. -/
def parseBound : Nat → Nat → List Token → Except Error (Option Expr × List Token)
  | 0, _, _ => .error .malformedTag
  | fuel + 1, depth, ts =>
    if (skip? (.sym ":") ts).isSome || (skip? (.sym "]") ts).isSome then .ok (none, ts)
    else do
      let (e, ts) ← parseExpr fuel depth ts
      return (some e, ts)

/-- The filters and tests that follow an expression. -/
def parseFilters : Nat → Nat → Expr → List Token → Except Error (Expr × List Token)
  | 0, _, _, _ => .error .malformedTag
  | fuel + 1, depth, e, ts =>
    match skip? (.sym "|") ts with
    | some ts => do
      let (name, ts) ← expectName ts
      let (arguments, named, ts) ← parseArguments fuel depth ts
      parseFilters fuel depth (.filter name e arguments named) ts
    | none =>
      match skip? (.word "is") ts with
      | none => .ok (e, ts)
      | some ts => do
        let (negated, ts) := match skip? (.word "not") ts with
          | some rest => (true, rest)
          | none => (false, ts)
        let (name, ts) ← expectName ts
        let (arguments, named, ts) ← parseTestArguments fuel depth ts
        let test := Expr.test name e arguments named
        parseFilters fuel depth (if negated then .not test else test) ts

/-- The arguments in parentheses that may follow a name. -/
def parseArguments :
    Nat → Nat → List Token → Except Error (List Expr × List (Text × Expr) × List Token)
  | 0, _, _ => .error .malformedTag
  | fuel + 1, depth, ts =>
    match skip? (.sym "(") ts with
    | none => .ok ([], [], ts)
    | some ts => parseCallArguments fuel depth ts

/-- Arguments up to the closing parenthesis: those by position, and after them those by name. -/
def parseCallArguments :
    Nat → Nat → List Token → Except Error (List Expr × List (Text × Expr) × List Token)
  | 0, _, _ => .error .malformedTag
  | fuel + 1, depth, ts =>
    match ts with
    | .name _ :: .mark ['='] :: _ => do
      let (named, ts) ← parseNamed fuel depth ts
      return ([], named, ts)
    | ts =>
      match skip? (.sym ")") ts with
      | some ts => .ok ([], [], ts)
      | none => do
        let (e, ts) ← parseExpr fuel depth ts
        match skip? (.sym ",") ts with
        | some ts =>
          let (es, named, ts) ← parseCallArguments fuel depth ts
          return (e :: es, named, ts)
        | none => return ([e], [], ← expect (.sym ")") ts)

/-- Arguments by name up to the closing parenthesis. -/
def parseNamed : Nat → Nat → List Token → Except Error (List (Text × Expr) × List Token)
  | 0, _, _ => .error .malformedTag
  | fuel + 1, depth, ts =>
    match skip? (.sym ")") ts with
    | some ts => .ok ([], ts)
    | none => do
      let (name, ts) ← expectName ts
      let ts ← expect (.sym "=") ts
      let (e, ts) ← parseLevel fuel depth 0 ts
      match skip? (.sym ",") ts with
      | some ts =>
        let (named, ts) ← parseNamed fuel depth ts
        return ((name, e) :: named, ts)
      | none => return ([(name, e)], ← expect (.sym ")") ts)

/-- The arguments of a test: in parentheses, or one argument without them. -/
def parseTestArguments :
    Nat → Nat → List Token → Except Error (List Expr × List (Text × Expr) × List Token)
  | 0, _, _ => .error .malformedTag
  | fuel + 1, depth, ts =>
    if (skip? (.sym "(") ts).isSome || !ts.head?.any startsArgument then
      parseArguments fuel depth ts
    else do
      let (e, ts) ← parseSigned fuel depth ts
      let (e, ts) ← parseParts fuel depth e ts
      return ([e], [], ts)

end

/-- Fuel enough for all the calls over a list of tokens. -/
def parseFuel (tokens : List Token) : Nat :=
  (2 * operatorLevels.length + 8) * (tokens.length + 1)

/-- The expression at the start of the tokens, inside `depth` statements. -/
def Expr.read (depth : Nat) (tokens : List Token) : Except Error (Expr × List Token) :=
  parseExpr (parseFuel tokens) depth tokens

/-- The expression that the tokens are, inside `depth` statements. -/
def Expr.ofTokens? (depth : Nat) (tokens : List Token) : Except Error Expr :=
  match Expr.read depth tokens with
  | .ok (e, []) => .ok e
  | .ok (_, _ :: _) => .error .malformedTag
  | .error err => .error err

end Weave.Template

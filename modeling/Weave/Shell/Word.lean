import Weave.Text.Basic

/-!
# Weave.Shell.Word — the words of a script

A script is cut into words, operators and line ends. A word is kept as the parts that it was
written with: text, quoted or not, the values of parameters, the output of other scripts, and sums.
-/

namespace Weave.Shell

/-! ## Words -/

/-- What is done with the value of a parameter. -/
inductive ParamOp where
  | value
  | length
  /-- The shortest or longest matching beginning goes. -/
  | dropFront (longest : Bool)
  /-- The shortest or longest matching end goes. -/
  | dropBack (longest : Bool)
  /-- Another word is used if the parameter is unset, or also if it is empty. -/
  | default (orEmpty : Bool)
  /-- Another word is used if the parameter is set, or only if it is not empty. -/
  | alternative (orEmpty : Bool)
  /-- Like `default`, and the parameter keeps the other word. -/
  | assigned (orEmpty : Bool)
  /-- The script ends with another word as a message if the parameter is unset, or also if it is
  empty. -/
  | required (orEmpty : Bool)
deriving Repr, DecidableEq, Inhabited

/-- Whether the word after an operation is a pattern. -/
def ParamOp.takesPattern : ParamOp → Bool
  | .dropFront _ => true
  | .dropBack _ => true
  | _ => false

inductive Part where
  | literal (content : Text) (quoted : Bool)
  | param (name : Text) (op : ParamOp) (argument : List Part) (quoted : Bool)
  /-- The output of a script that begins on a line. After the commands of a loose one stands
  anything that can end commands. -/
  | output (line : Nat) (script : Text) (loose quoted : Bool)
  | sum (expression : List Part) (quoted : Bool)
  /-- A parameter with an operation that there is not. -/
  | malformed
deriving Repr, Inhabited

abbrev Word : Type :=
  List Part

/-- The text of a word that is written without quotes or parameters. -/
def plainText? (word : Word) : Option Text :=
  word.foldrM (fun part s =>
    match part with
    | .literal content false => some (content ++ s)
    | _ => none) []

/-- The characters that stand in a word themselves. -/
def literalText (word : Word) : Text :=
  word.flatMap fun part =>
    match part with
    | .literal content _ => content
    | _ => []

def hasQuotes (word : Word) : Bool :=
  word.any fun part =>
    match part with
    | .literal _ quoted => quoted
    | _ => false

/-! ## Tokens -/

inductive Token where
  /-- A word. It leads if a command can begin with it. -/
  | word (word : Word) (leads : Bool)
  /-- An operator; a redirection may have a number in front. -/
  | operator (symbol : Text) (descriptor : Option Nat)
  /-- A here-document: the input of a command that stands in the script itself. -/
  | document (body : Word) (descriptor : Option Nat)
  | newline
deriving Repr, Inhabited

/-- Tokens with the numbers of their lines. The line of a line end is the one before which it
stands. -/
abbrev Tokens : Type :=
  List (Nat × Token)

def Token.name : Token → Text
  | .word w _ =>
    match plainText? w with
    | some s => if reserved.contains s then '"' :: s ++ ['"'] else "word".toList
    | none => "word".toList
  | .operator symbol _ =>
    if symbol.any fun c => c = '<' || c = '>' then "redirection".toList
    else '"' :: symbol ++ ['"']
  | .document _ _ => "redirection".toList
  | .newline => "newline".toList
where
  /-- The words that the grammar knows. -/
  reserved : List Text :=
    ["!", "case", "do", "done", "elif", "else", "esac", "fi", "for", "if", "in", "then", "until",
     "while", "\x7b", "\x7d"].map String.toList

/-! ## Errors -/

/-- Why a script cannot be read. -/
inductive SyntaxError where
  | openQuote
  | openBackquote
  | openBrace
  | openSum
  /-- A token, or the end of the script, where another one has to stand. -/
  | unexpected (token : Option Token) (expected : Option Text)
  | badLoopVariable
  | badFunctionName
deriving Repr, Inhabited

def SyntaxError.message (e : SyntaxError) : Text :=
  "Syntax error: ".toList ++
    match e with
    | .openQuote => "Unterminated quoted string".toList
    | .openBackquote => "EOF in backquote substitution".toList
    | .openBrace => "Missing \x27\x7d\x27".toList
    | .openSum => "Missing \x27))\x27".toList
    | .badLoopVariable => "Bad for loop variable".toList
    | .badFunctionName => "Bad function name".toList
    | .unexpected token expected =>
      let name := match token with
        | some t => t.name
        | none => "end of file".toList
      let wish := match expected with
        | some s => " (expecting \"".toList ++ s ++ "\")".toList
        | none => []
      name ++ " unexpected".toList ++ wish

end Weave.Shell

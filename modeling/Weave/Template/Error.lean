import Weave.Text.Basic

/-!
# Weave.Template.Error — why a template cannot be read or rendered
-/

namespace Weave.Template

/-- Why a template cannot be read or rendered. -/
inductive Error where
  /-- A tag, a comment, a raw block or a literal has no end. -/
  | unclosed (what : Text)
  /-- A character that starts no token. -/
  | unexpectedCharacter (c : Char)
  /-- A number or an escape sequence that stands for nothing. -/
  | badLiteral
  /-- A tag ends too early or goes on too long, or a token is out of place. -/
  | malformedTag
  /-- Statements or brackets are nested too deeply. -/
  | tooDeep
  | unknownTag (name : Text)
  | unknownFilter (name : Text)
  | unknownTest (name : Text)
  | unknownFunction (name : Text)
  /-- A value was called that is not a function. -/
  | notCallable
  /-- The wrong arguments for a filter, test or function. -/
  | badArguments (name : Text)
  /-- An attribute of an undefined value was asked for. -/
  | undefinedValue
  /-- The value cannot be iterated over. -/
  | notIterable
  /-- The operands of an operator do not fit it. -/
  | badOperands
deriving Repr, DecidableEq, Inhabited

def Error.message : Error → Text
  | .unclosed what => "unexpected end of ".toList ++ what
  | .unexpectedCharacter c => "syntax error: unexpected character ".toList ++ [c]
  | .badLiteral => "syntax error: bad literal".toList
  | .malformedTag => "syntax error: malformed tag".toList
  | .tooDeep => "syntax error: template exceeds maximum recursion limits".toList
  | .unknownTag name => "syntax error: unknown statement ".toList ++ name
  | .unknownFilter name => "unknown filter: ".toList ++ name
  | .unknownTest name => "unknown test: ".toList ++ name
  | .unknownFunction name => "unknown function: ".toList ++ name
  | .notCallable => "invalid operation: value is not callable".toList
  | .badArguments name => "bad arguments for ".toList ++ name
  | .undefinedValue => "undefined value".toList
  | .notIterable => "invalid operation: value is not iterable".toList
  | .badOperands => "invalid operation: unsupported operands".toList

end Weave.Template

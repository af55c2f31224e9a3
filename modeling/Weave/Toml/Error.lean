import Weave.Text.Basic

/-!
# Weave.Toml.Error — why a configuration text cannot be read
-/

namespace Weave.Toml

/-- Why a configuration text cannot be read. -/
inductive Error where
  /-- A character that cannot stand where it stands, or the end of the text too early. -/
  | malformed
  /-- An escape sequence or a number that stands for nothing. -/
  | badLiteral
  /-- A key is given a value, or a table is opened, for the second time. -/
  | duplicate (key : Text)
  /-- A key leads through a value that is not a table, or through one that is complete. -/
  | notExtensible (key : Text)
  /-- Values are nested too deeply. -/
  | tooDeep
  /-- A value has another type than its key asks for. -/
  | wrongType (key : Text)
  /-- A number under a key is too large. -/
  | outOfRange (key : Text)
deriving Repr, DecidableEq, Inhabited

def Error.message : Error → Text
  | .malformed => "malformed TOML".toList
  | .badLiteral => "malformed TOML literal".toList
  | .duplicate key => "duplicate key ".toList ++ key
  | .notExtensible key => "cannot extend ".toList ++ key
  | .tooDeep => "values are nested too deeply".toList
  | .wrongType key => "wrong type for ".toList ++ key
  | .outOfRange key => "number out of range in ".toList ++ key

end Weave.Toml

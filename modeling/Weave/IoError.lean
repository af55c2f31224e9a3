import Weave.Text.Basic

/-!
# Weave.IoError — why an operation on files fails
-/

namespace Weave

/-- Why an operation on files fails. -/
inductive IoError where
  | notFound
  | permissionDenied
  | alreadyExists
  | notADirectory
  | isADirectory
  /-- The bytes of a file that is read as text are not UTF-8. -/
  | invalidData
  /-- A path or an argument holds the character NUL. -/
  | invalidInput
  /-- No part of a path could be created. -/
  | other
deriving Repr, DecidableEq, Inhabited

namespace IoError

def name : IoError → Text
  | .notFound => "NotFound".toList
  | .permissionDenied => "PermissionDenied".toList
  | .alreadyExists => "AlreadyExists".toList
  | .notADirectory => "NotADirectory".toList
  | .isADirectory => "IsADirectory".toList
  | .invalidData => "InvalidData".toList
  | .invalidInput => "InvalidInput".toList
  | .other => "Other".toList

/-- The text that the system gives for an error. -/
def message : IoError → Text
  | .notFound => "No such file or directory (os error 2)".toList
  | .permissionDenied => "Permission denied (os error 13)".toList
  | .alreadyExists => "File exists (os error 17)".toList
  | .notADirectory => "Not a directory (os error 20)".toList
  | .isADirectory => "Is a directory (os error 21)".toList
  | .invalidData => "stream did not contain valid UTF-8".toList
  | .invalidInput => "nul byte found in provided data".toList
  | .other => "failed to create whole tree".toList

/-- The text that the system gives for an error without the number of the error. -/
def reason (e : IoError) : Text :=
  let words := e.message.takeWhile (· ≠ '(')
  if words.length = e.message.length then words else words.dropLast

end IoError

end Weave

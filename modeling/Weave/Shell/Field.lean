import Weave.Shell.Pattern
import Weave.Shell.State

/-!
# Weave.Shell.Field — the fields of expanded words

A word is expanded into pieces, and pieces give fields: values that are not quoted are split at
separators, and fields with wild characters become the names of files.
-/

namespace Weave.Shell

inductive Piece where
  | chars (content : Text) (quoted : Bool)
  /-- The value of something unquoted, which is split at separators. -/
  | value (content : Text)
  /-- The end of a field. -/
  | fieldEnd
deriving Repr, DecidableEq, Inhabited

def Piece.ofValue (quoted : Bool) (s : Text) : Piece :=
  if quoted then .chars s true else .value s

/-- The text of the pieces of a word that is not split. -/
def marked (pieces : List Piece) : Marked :=
  pieces.flatMap fun piece =>
    match piece with
    | .chars content quoted => mark quoted content
    | .value content => mark false content
    | .fieldEnd => mark true [' ']

/-- The text of the pieces of a word that is not split, without marks. -/
def plain (pieces : List Piece) : Text :=
  unmark (marked pieces)

/-- A pattern in which a backslash that is not quoted quotes the next character. -/
def unescaped : Marked → Marked
  | ('\\', false) :: (c, _) :: rest => (c, true) :: unescaped rest
  | c :: rest => c :: unescaped rest
  | [] => []

/-- The pattern that the pieces of a word are. -/
def patternOf (pieces : List Piece) : Marked :=
  unescaped (marked pieces)

/-! ## Splitting -/

/-- Fields while they are put together. All texts are kept backwards. -/
structure Fields where
  done : List Marked
  /-- The field that was begun. -/
  current : Option Marked
  /-- Whether blank separators ended the last field. -/
  afterBlank : Bool
deriving Inhabited

namespace Fields

/-- The fields after the one that was begun has ended. -/
def close (f : Fields) : Fields :=
  match f.current with
  | some s => ⟨s.reverse :: f.done, none, false⟩
  | none => { f with afterBlank := false }

/-- The fields with characters in the one that was begun. -/
def extend (f : Fields) (s : Marked) : Fields :=
  ⟨f.done, some (s.reverse ++ f.current.getD []), false⟩

/-- The fields after a character of a value that is split. Blank separators around another one are
part of it. -/
def splitChar (separators : Text) (f : Fields) (c : Char) : Fields :=
  if !separators.contains c then f.extend [(c, false)]
  else if c = ' ' || c = '\t' || c = '\n' then
    if f.current.isSome then { f.close with afterBlank := true } else f
  else if f.current.isSome || f.afterBlank then f.close
  else { f with done := [] :: f.done }

def addPiece (separators : Text) (f : Fields) : Piece → Fields
  | .fieldEnd => f.close
  | .value content => content.foldl (splitChar separators) f
  | .chars content quoted =>
    if content.isEmpty && !quoted then f else f.extend (mark quoted content)

/-- The fields that pieces give. -/
def ofPieces (separators : Text) (pieces : List Piece) : List Marked :=
  (pieces.foldl (addPiece separators) ⟨[], none, false⟩).close.done.reverse

end Fields

/-! ## Names of files -/

/-- The components of a field between slashes. -/
def components (field : Marked) : List Marked :=
  field.splitOnP fun c => c.1 = '/'

/-- The names in the directory at the end of a path that a pattern matches. -/
def namesMatching (disk : Disk) (path : Text) (pattern : Marked) : List Text :=
  let location := locationOf disk (if path.isEmpty then ['.'] else path)
  let hidden := unmark (pattern.take 1) = ['.']
  let dots := if hidden then [['.'], ['.', '.']] else []
  (dots ++ namesIn disk location hidden).filter (matchesPattern pattern)

/-- The paths below a path that match components. -/
def pathsMatching (disk : Disk) : List Marked → Text → List Text
  | [], path => if fileExists disk path then [path] else []
  | pattern :: rest, path =>
    let stem := fun name : Text => if rest.isEmpty then path ++ name else path ++ name ++ ['/']
    if pattern.any isWild then
      (namesMatching disk path pattern).flatMap fun name => pathsMatching disk rest (stem name)
    else pathsMatching disk rest (stem (unmark pattern))

/-- The names of files that a field with wild characters matches, sorted. Without such names, and
without wild characters, the field itself. -/
def matchingPaths (disk : Disk) (field : Marked) : List Text :=
  let own := unmark field
  if !field.any isWild then [own]
  else
    let found := (pathsMatching disk (components (unescaped field)) []).mergeSort notAfter
    if found.isEmpty then [own] else found

/-! ## Parameters -/

namespace State

/-- Whether another word is used instead of a parameter. -/
def isAbsent (sh : State) (name : Text) (orEmpty : Bool) : Bool :=
  match sh.param? name with
  | none => true
  | some s => orEmpty && s.isEmpty

/-- The pieces for the value of a parameter. All arguments are fields of their own. -/
def paramPieces (sh : State) (name : Text) (quoted : Bool) : List Piece :=
  if name = ['@'] || (name = ['*'] && !quoted) then
    (sh.args.map (Piece.ofValue quoted)).intersperse .fieldEnd
  else [.ofValue quoted ((sh.param? name).getD [])]

def fields (sh : State) (pieces : List Piece) : List Text :=
  let fields := Fields.ofPieces sh.separators pieces
  if sh.options.contains 'f' then fields.map unmark
  else fields.flatMap (matchingPaths sh.disk)

end State

end Weave.Shell

import Weave.Text.Bytes

/-!
# Weave.PathName — paths as they are written

A path name is a text whose segments are separated by slashes. Empty segments, and segments of a
single dot after the first one, are idle: they do not count as components, but they stay in the text
where nothing cuts them off. `outputFile` and `relativeTo` are built from the operations here.
-/

namespace Weave.PathName

/-! ## Segments and components -/

inductive Component where
  /-- The slash that an absolute path begins with. -/
  | root
  /-- A dot at the beginning of a relative path. -/
  | here
  /-- Two dots. -/
  | up
  | name (text : Text)
deriving Repr, DecidableEq, Inhabited

/-- Whether a path name begins at the root. -/
def isAbsolute (path : Text) : Bool :=
  path.head? = some '/'

/-- The pieces of a path name between its slashes. -/
def segments (path : Text) : List Text :=
  path.splitOnP (· = '/')

/-- The path name with these pieces. -/
def ofSegments (segments : List Text) : Text :=
  (segments.intersperse ['/']).flatten

/-- Whether a segment after the first one is no component. -/
def isIdle (segment : Text) : Bool :=
  segment = [] || segment = ['.']

def Component.ofSegment (segment : Text) : Component :=
  if segment = ['.', '.'] then .up else .name segment

/-- The component that the first segment stands for: of an absolute path the root, and none if the
path is empty. -/
def headComponent? (path head : Text) : Option Component :=
  if isAbsolute path then some .root
  else if head = [] then none
  else if head = ['.'] then some .here
  else some (.ofSegment head)

def components (path : Text) : List Component :=
  match segments path with
  | [] => []
  | head :: rest =>
    (headComponent? path head).toList
      ++ (rest.filter fun s => !isIdle s).map .ofSegment

/-! ## Putting together -/

/-- The path name of `path` as seen from the directory `dir`. An absolute path is itself. -/
def join (dir path : Text) : Text :=
  if isAbsolute path then path
  else if dir = [] || dir.getLast? = some '/' then dir ++ path
  else dir ++ '/' :: path

/-! ## Taking apart -/

def dropIdleEnd (segments : List Text) : List Text :=
  (segments.reverse.dropWhile isIdle).reverse

/-- The path name that begins with a segment and goes on with others. Alone, the empty segment of an
absolute path is the root. -/
def ofHead (path head : Text) (rest : List Text) : Text :=
  if rest.isEmpty && isAbsolute path then ['/'] else ofSegments (head :: rest)

/-- The name of the file that a path leads to, if its last component is a name. -/
def fileName? (path : Text) : Option Text :=
  match (components path).getLast? with
  | some (.name n) => some n
  | _ => none

/-- The path name without its last component, if that is not the root. -/
def parent? (path : Text) : Option Text :=
  match segments path with
  | [] => none
  | head :: rest =>
    let live := dropIdleEnd rest
    if live.isEmpty then
      if isAbsolute path || head = [] then none else some []
    else some (ofHead path head (dropIdleEnd live.dropLast))

def withFileName (path name : Text) : Text :=
  match fileName? path, parent? path with
  | some _, some parent => join parent name
  | _, _ => join path name

/-- The segments after the first `n` that are not idle, without idle ones at the start. -/
def dropLive : Nat → List Text → List Text
  | 0, segments => segments.dropWhile isIdle
  | n + 1, segments => dropLive n (segments.dropWhile isIdle).tail

/-- The path name after the components of `base`, if the components of `path` begin with them. -/
def stripBase? (base path : Text) : Option Text :=
  if (components base).isPrefixOf (components path) then
    match segments path with
    | [] => some []
    | head :: rest =>
      match (components base).length with
      | 0 => some (ofHead path head (dropIdleEnd rest))
      | n + 1 => some (ofSegments (dropIdleEnd (dropLive n rest)))
  else none

/-- The path name as seen from `base`, or itself if it does not lie below. -/
def relativeTo (base path : Text) : Text :=
  (stripBase? base path).getD path

/-- The directories that a path name leads through, itself first. -/
def ancestors (path : Text) : List Text :=
  match parent? path with
  | none => [path]
  | some parent =>
    if parent.length < path.length then path :: ancestors parent else [path]
termination_by path.length

/-! ## The name of a page -/

/-- The path name of the page for a source: its suffix is replaced by `.md`. There is none for a
source whose name is not UTF-8, does not end in the suffix, or is nothing else. The path need not be a
text, and is written with a character for each of its bytes, as the result is. -/
def outputFile? (path suffix : Text) : Option Text := do
  let bytes ← fileName? path
  let name ← Text.decode? (Text.toBytes bytes)
  let stem ← Text.before? suffix name
  if stem.isEmpty then none else some (withFileName path (Text.widen (stem ++ ".md".toList)))

end Weave.PathName

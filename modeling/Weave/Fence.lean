import Weave.Failure
import Weave.Text.Alphanumeric
import Weave.Text.Blank

/-!
# Weave.Fence — the lines that open and close managed blocks

A managed block opens with three backticks and the language of the page. What follows on that
line is an annotation in braces, which is shown again on the page, and words separated by white
space. The first word that is a directive decides what the block is for; without a directive
`-skip` and `-singleFile` are looked for. `classify` reads such a line, `isClose` recognises the
line that closes the block.
-/

namespace Weave.Fence

def marker : Text :=
  ['\x60', '\x60', '\x60']

/-! ## Annotations in braces -/

/-- What stands from the first opening to the last closing brace, cut out of a text, together
with the text that is left. Without such braces the whole text is left. -/
def cutHighlight (info : Text) : Text × Option Text :=
  let before := info.takeWhile (· ≠ '\x7b')
  let braced := info.dropWhile (· ≠ '\x7b')
  let highlight := Text.trimEndWhere (· ≠ '\x7d') braced
  if highlight.isEmpty then (info, none)
  else (before ++ braced.drop highlight.length, some highlight)

/-! ## Directives -/

/-- The directives: the word that each begins with, and the kind of block it asks for. -/
def directives : List (Text × (CollectionId → BlockKind)) :=
  [("collect_".toList, .collect .run), ("execute_".toList, .execute .run),
   ("test_collect_".toList, .collect .test), ("test_".toList, .execute .test)]

/-- What a word means for one row of the table of directives, if anything. -/
def readRow (word : Text) (line : Nat) (row : Text × (CollectionId → BlockKind)) :
    Option (Except Failure BlockKind) := do
  let raw ← Text.after? row.1 word
  match CollectionId.parse? raw with
  | some id => return .ok (row.2 id)
  | none =>
    if CollectionId.isOutOfRange raw then return .error (.collectionIdOutOfRange raw line)
    else none

/-- The kind of block that a word asks for, if it is a directive. An id that is too large is an
error. -/
def readDirective (token : Text) (line : Nat) : Option (Except Failure BlockKind) := do
  let word ← Text.after? ['-'] token
  directives.findSome? (readRow word line)

/-! ## Modifiers -/

/-- The modifier of blocks that are only shown. -/
def skipModifier : Text :=
  "-skip".toList

/-- The modifier of blocks that are complete files. -/
def singleFileModifier : Text :=
  "-singleFile".toList

/-- The kind of a block without a directive. -/
def modifiedKind (tokens : List Text) : BlockKind :=
  if tokens.contains skipModifier then .skip
  else if tokens.contains singleFileModifier then .singleFile
  else .plain

/-- Whether a word looks like a modifier but is none. -/
def isUnknownModifier (token : Text) : Bool :=
  token.head? = some '-' && token ≠ skipModifier && token ≠ singleFileModifier

/-! ## Opening lines -/

/-- What an opening line says about its block. -/
structure Annotation where
  kind : BlockKind
  highlight : Option Text
deriving Repr, DecidableEq, Inhabited

/-- A word on an opening line that was ignored, and the number of the line. -/
structure Warning where
  line : Nat
  token : Text
deriving Repr, DecidableEq, Inhabited

def Warning.message : Text :=
  "ignoring unknown fence modifier".toList

/-- What follows the language on a line that opens a managed block. The language has to end
there: a letter, a digit or an underscore would continue it. -/
def info? (language line : Text) : Option Text := do
  let rest ← Text.after? language (← Text.after? marker line)
  if rest.head?.any fun c => Text.isAlphanumeric c || c = '_' then none else some rest

/-- The public collection cannot be run. -/
def checkRunnable (kind : BlockKind) (line : Nat) : Except Failure BlockKind :=
  match kind with
  | .execute family .everyone => .error (.wildcardExecution family line)
  | kind => .ok kind

/-- The kind of block that the words of an opening line ask for. -/
def kindOf (tokens : List Text) (line : Nat) : Except Failure BlockKind :=
  match tokens.findSome? (readDirective · line) with
  | some (.ok kind) => checkRunnable kind line
  | some (.error failure) => .error failure
  | none => .ok (modifiedKind tokens)

/-- What a line says that may open a managed block, nothing if it opens none. The index of the
line is counted from zero. -/
def classify (language line : Text) (index : Nat) : Except Failure (Option Annotation) :=
  match info? language line with
  | none => .ok none
  | some info =>
    let (rest, highlight) := cutHighlight info
    (kindOf (Text.words rest) (index + 1)).map fun kind => some ⟨kind, highlight⟩

/-- The words that are ignored on a line. Where there is a directive, nobody looks at the other
words. -/
def warnings (language line : Text) (index : Nat) : List Warning :=
  match info? language line with
  | none => []
  | some info =>
    let tokens := Text.words (cutHighlight info).1
    if (tokens.findSome? (readDirective · (index + 1))).isSome then []
    else (tokens.filter isUnknownModifier).map fun token => ⟨index + 1, token⟩

/-! ## Closing lines -/

def isClose (line : Text) : Bool :=
  Text.trimEnd line = marker

end Weave.Fence

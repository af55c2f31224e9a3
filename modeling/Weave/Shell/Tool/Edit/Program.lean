import Weave.Shell.Regex

/-!
# Weave.Shell.Tool.Edit.Program — programs that edit lines

The commands of the line editor. A program is a list of steps; a block is opened and closed by steps
of its own, so that one can jump to a label anywhere.
-/

namespace Weave.Shell.Edit

/-! ## Addresses -/

/-- A regular expression with its flag. -/
structure Pattern where
  regex : Regex
  /-- The number of its groups. -/
  groups : Nat
  folded : Bool
deriving Inhabited

inductive Place where
  | line (number : Nat)
  /-- A line, and each one so many lines after it. -/
  | every (first step : Nat)
  | last
  /-- A line with a match of a pattern, or of the one that was used last. -/
  | found (pattern : Option Pattern)
deriving Inhabited

/-- Where a span of lines ends. -/
inductive Stop where
  | at (place : Place)
  /-- So many lines after its first one. -/
  | after (count : Nat)
  /-- At a line whose number is a multiple. -/
  | multiple (factor : Nat)
deriving Inhabited

/-- The lines for which a step is. -/
inductive Address where
  | all
  | single (place : Place)
  | span (first : Place) (stop : Stop)
deriving Inhabited

/-! ## Replacements -/

/-- A change of letters to capitals or small ones. -/
inductive Casing where
  | upper
  | lower
  | plain
  | upperNext
  | lowerNext
deriving Repr, DecidableEq, Inhabited

/-- A part of what replaces a match. -/
inductive Part where
  | text (s : Text)
  /-- What a group matched. The group 0 is the whole match. -/
  | group (number : Nat)
  | casing (change : Casing)
deriving Repr, DecidableEq, Inhabited

structure Replacement where
  pattern : Option Pattern
  parts : List Part
  /-- The number of the first match that is replaced. -/
  first : Nat
  /-- Whether the matches after it are replaced, too. -/
  all : Bool
  print : Bool
  /-- The file to which a changed line is written. -/
  file : Option Text
deriving Inhabited

/-! ## Steps -/

/-- When a jump is made. -/
inductive Condition where
  | always
  | replaced
  | notReplaced
deriving Repr, DecidableEq, Inhabited

/-- What a step does. -/
inductive Deed where
  | nothing
  | open
  | close
  | label (name : Text)
  /-- A jump to a label, or to the end of the program if the label is empty. -/
  | jump (condition : Condition) (name : Text)
  | number
  | append (s : Text)
  | insert (s : Text)
  | change (s : Text)
  | delete
  | deleteLine
  | print
  | printLine
  /-- Shows the line without ambiguities, broken at a width. -/
  | show (width : Option Nat)
  | store (more : Bool)
  | fetch (more : Bool)
  | swap
  | clear
  | next
  | join
  | quit (status : Nat) (silent : Bool)
  | read (file : Text)
  | readLine (file : Text)
  | write (file : Text)
  | writeLine (file : Text)
  | fileName
  | replace (r : Replacement)
  | map (table : List (Char × Char))
deriving Inhabited

structure Step where
  /-- The number of the step. -/
  index : Nat
  address : Address
  negated : Bool
  deed : Deed
deriving Inhabited

namespace Deed

/-- The file that a step writes, which is empty at the beginning. -/
def written? : Deed → Option Text
  | .write file => some file
  | .writeLine file => some file
  | .replace r => r.file
  | _ => none

end Deed

def afterLabel (name : Text) : List Step → List Step
  | [] => []
  | step :: rest =>
    match step.deed with
    | .label n => if n = name then rest else afterLabel name rest
    | _ => afterLabel name rest

/-- The steps after the end of a block, inside so many other blocks. -/
def afterBlock : Nat → List Step → List Step
  | _, [] => []
  | depth, step :: rest =>
    match step.deed, depth with
    | .open, depth => afterBlock (depth + 1) rest
    | .close, 0 => rest
    | .close, depth + 1 => afterBlock depth rest
    | _, depth => afterBlock depth rest

end Weave.Shell.Edit

import Weave.Shell.Arithmetic
import Weave.Shell.Tool.Basic

/-!
# Weave.Shell.Tool.Xargs — commands made from an input

The words of an input become arguments of commands: all of them of one command, so many of each, or
one line of each in the place of a mark.
-/

namespace Weave.Shell.Xargs

/-! ## Words of the input -/

/-- The arguments that a text holds, between blanks. Quotes and backslashes keep blanks. The
argument that was begun is given backwards. -/
def inputWords : Option Char → Option Text → Text → List Text
  | _, current, [] => (current.map List.reverse).toList
  | some quote, current, c :: rest =>
    if c = quote then inputWords none (some (current.getD [])) rest
    else inputWords (some quote) (some (c :: current.getD [])) rest
  | none, current, '\\' :: c :: rest => inputWords none (some (c :: current.getD [])) rest
  | none, current, c :: rest =>
    if isSpace c then
      match current with
      | some s => s.reverse :: inputWords none none rest
      | none => inputWords none none rest
    else if c = '\'' || c = '"' then inputWords (some c) (some (current.getD [])) rest
    else inputWords none (some (c :: current.getD [])) rest

/-- A text with another one in all places of a mark. -/
def replaceAll (mark new : Text) : Text → Text
  | [] => []
  | c :: rest =>
    match if mark.isEmpty then none else Text.after? mark (c :: rest) with
    | some _ => new ++ skip (mark.length - 1) rest
    | none => c :: replaceAll mark new rest
where
  /-- The rest of the text after so many characters. -/
  skip : Nat → Text → Text
    | _, [] => []
    | 0, s => replaceAll mark new s
    | n + 1, _ :: rest => skip n rest

/-- A list cut into pieces of a length. The number of elements is fuel enough. -/
def chunks (n : Nat) : Nat → List Text → List (List Text)
  | 0, _ => []
  | _ + 1, [] => []
  | fuel + 1, xs => xs.take n :: chunks n fuel (xs.drop n)

/-! ## Commands -/

def spec : OptionSpec where
  flags := "0rtx"
  valued := "nILdPs"
  long := [("null", '0'), ("no-run-if-empty", 'r'), ("verbose", 't'), ("max-args", 'n'),
    ("max-lines", 'L'), ("delimiter", 'd'), ("max-procs", 'P'), ("replace", 'I')]
  strict := true

/-- The commands that `xargs` runs for an input. -/
def commands (given : Given) (input : Text) : List (List Text) :=
  let command := if given.operands.isEmpty then ["echo".toList] else given.operands
  let items :=
    if given.has '0' then (input.splitOnP (· = '\x00')).filter (!·.isEmpty)
    else
      match given.value? 'd' with
      | some d =>
        let mark := if d = "\\n".toList then '\n' else d.headD '\n'
        (Text.stripLast mark input).splitOnP (· = mark)
      | none =>
        if given.has 'I' then ((Text.lines input).map fun l => (Text.stripLast '\n' l).dropWhile
          fun c => c = ' ' || c = '\t').filter (!·.isEmpty)
        else inputWords none none input
  match given.value? 'I' with
  | some mark => items.map fun item => command.map (replaceAll mark item)
  | none =>
    -- without items the command still runs once
    if items.isEmpty then if given.has 'r' then [] else [command]
    else
      match given.value? 'L' with
      | some n =>
        let lines := ((Text.lines input).map (inputWords none none)).filter (!·.isEmpty)
        (((List.range lines.length).filter (· % max 1 (Text.toNat n) = 0)).map fun i =>
          command ++ ((lines.drop i).take (max 1 (Text.toNat n))).flatten)
      | none =>
        let n := ((given.value? 'n').map Text.toNat).getD items.length
        (chunks (max 1 n) (items.length + 1) items).map (command ++ ·)

end Weave.Shell.Xargs

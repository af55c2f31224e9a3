import Weave.Shell.Builtin
import Weave.Shell.Redirection
import Weave.Shell.Tool.Basic

/-!
# Weave.Shell.Scope — actions inside of something

Ways to run an action: in a copy of the shell, as part of a loop, as a function, with variables or
with a channel of its own. What the action changed is undone as far as the rule of the construct
says.
-/

namespace Weave.Shell

/-! ## Scopes -/

/-- Ends the shell if the last command failed, which was not tested, and that is asked for. -/
def checkStatus (tested : Bool) : Act Unit := do
  let sh ← get
  if !tested && sh.status ≠ 0 && sh.options.contains 'e' then throw .exit

/-- Runs an action in a copy of the shell. Of its traps only the empty ones are kept. -/
def isolated (act : Act Unit) : Act Unit := do
  let parent ← get
  set { parent with
    traps := parent.traps.eraseWhere fun name => parent.traps.get? name ≠ some []
    loops := 0 }
  let result ← act.attempt
  modify fun child => child.afterChild parent
  match result with
  | .error (.killed n) => throw (.killed n)
  | .error .endless => throw .endless
  | _ => return

/-- How a part of a loop ended. -/
inductive Round where
  | done
  /-- The next round is to begin. -/
  | again
  /-- The loop was left. -/
  | left
deriving Repr, DecidableEq, Inhabited

/-- Runs a part of a loop. -/
def inLoop (act : Act Unit) : Act Round := do
  modify fun sh => { sh with loops := sh.loops + 1 }
  let result ← act.attempt
  modify fun sh => { sh with loops := sh.loops - 1 }
  match result with
  | .ok () => return .done
  | .error (.loops n) => if n ≤ 1 then return .left else throw (.loops (n - 1))
  | .error (.round n) => if n ≤ 1 then return .again else throw (.round (n - 1))
  | .error e => throw e

/-- A word with the home directory in the place of a tilde at its start, and in assignments also
after colons. -/
def withHome (home : Option Text) (assigned : Bool) : Word → Word
  | [] => []
  | part :: rest =>
    let ends := match rest with
      | [] => true
      | .literal ['/'] _ :: _ => true
      | .literal [':'] false :: _ => assigned
      | _ => false
    match part, home with
    | .literal ['~'] false, some home =>
      if ends then .literal home true :: afterTilde (some home) assigned rest
      else part :: afterTilde (some home) assigned rest
    | _, _ => part :: afterTilde home assigned rest
where
  /-- What follows, in which only a colon can come before another tilde. -/
  afterTilde (home : Option Text) (assigned : Bool) : Word → Word
    | .literal [':'] false :: rest =>
      if assigned then .literal [':'] false :: withHome home assigned rest
      else .literal [':'] false :: rest
    | part :: rest => part :: afterTilde home assigned rest
    | [] => []

/-- The pieces of a word that stands for a parameter, where they may be split. -/
def splittable (quoted : Bool) (pieces : List Piece) : List Piece :=
  if quoted then pieces
  else pieces.map fun piece =>
    match piece with
    | .chars content false => .value content
    | piece => piece

/-- The most functions that can run inside one another. -/
def maxDepth : Nat := 1000

/-- Runs an action as a function with arguments. -/
def asFunction (args : List Text) (act : Act Unit) : Act Unit := do
  let sh ← get
  if maxDepth ≤ sh.saved.length then
    Act.fail ("Maximum function recursion depth (".toList ++ Text.ofNat maxDepth
      ++ ") reached".toList)
  set { sh with saved := [] :: sh.saved, args := args, loops := 0 }
  let result ← act.attempt
  modify fun after =>
    let after := (after.saved.headD []).foldl (fun sh (name, value) => sh.withOldVar name value)
      after
    { after with saved := sh.saved, args := sh.args, loops := sh.loops }
  match result with
  | .error .function => return
  | .error e => throw e
  | .ok () => return

/-- Runs an action whose complaints name something. -/
def inContext (context : Text) (act : Act Unit) : Act Unit := do
  let before := (← get).context
  modify fun sh => { sh with context := context }
  let result ← act.attempt
  modify fun sh => { sh with context := before }
  match result with
  | .error e => throw e
  | .ok () => return

/-- Runs an action that sets variables which afterwards are as they were before. -/
def withOwnVars (names : List Text) (act : Act Unit) : Act Unit := do
  let before ← get
  let result ← act.attempt
  modify fun after =>
    let after := names.foldl (fun sh name => sh.withOldVar name (before.vars.get? name)) after
    { after with exported := after.exported.filter fun name =>
        before.exported.contains name || !names.contains name }
  match result with
  | .error e => throw e
  | .ok () => return

/-- Gives variables to programs. -/
def exporting (names : List Text) : Act Unit :=
  modify fun sh => { sh with exported := sh.exported ++ names.filter (!sh.exported.contains ·) }

/-- Runs an action with another channel for a descriptor, which is closed afterwards: what was left
in it. -/
def withChannel (descriptor : Nat) (channel : Channel) (act : Act Unit) : Act Channel := do
  let before ← get
  set (before.openChannel descriptor channel)
  let result ← act.attempt
  let after ← get
  set (after.withDescriptors before)
  match result with
  | .error e => throw e
  | .ok () => return (after.channels.get? before.nextChannel).getD channel

/-- Shows a command before it runs, if that is asked for. -/
def trace (channel : Option Nat) (words : List Text) : Act Unit := do
  let sh ← get
  if sh.options.contains 'x' && !words.isEmpty then
    let sign := (sh.vars.get? "PS4".toList).getD []
    let line := sign ++ (words.intersperse [' ']).flatten ++ ['\n']
    channel.forM fun id => modify (·.putChannel id line)

/-- The location of the input as a file. -/
def inputDevice : Location :=
  ["stdin".toList, "dev".toList]

/-- Runs a tool. If an argument names the input as a file, then it is one meanwhile. -/
def useTool (tool : Tool) (args : List Text) : Act Unit := do
  let sh ← get
  let input := sh.waiting 0
  let named := args.contains "/dev/stdin".toList
  let disk := if named then sh.disk.plant inputDevice (.file (Text.toBytes input)) else sh.disk
  let ((), bench) := (tool args).run
    { disk := disk, input := input, fromFile := sh.readsFile 0, written := [], status := 0 }
  let disk := if named then bench.disk.drop inputDevice else bench.disk
  let sh := { sh with disk := disk, status := bench.status }
  let rest := if named then [] else bench.input
  let sh := if rest.length = input.length then sh else sh.withRest 0 rest
  set (bench.written.reverse.foldl (fun sh w =>
    match w with
    | .out s => sh.put 1 s
    | .err s => sh.put 2 s) sh)

end Weave.Shell

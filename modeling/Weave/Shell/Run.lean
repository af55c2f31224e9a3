import Weave.Shell.Invocation
import Weave.Shell.Lookup
import Weave.Shell.Scope
import Weave.Shell.Tool.Xargs

/-!
# Weave.Shell.Run — running scripts

What the commands of a script do. Loops can go on for ever, so a run is given fuel; what uses it up
is endless. A command that is tested by the command around it may fail; any other one that fails
ends the shell if that was asked for.
-/

namespace Weave.Shell

namespace Run

/-! ## Commands -/

mutual

/-- Runs a command. Here and below each call of one function by another takes one unit of fuel. -/
def command : Nat → Bool → Command → Act Unit
  | 0, _, _ => throw .endless
  | fuel + 1, tested, c => do
    if (← get).options.contains 'n' then return
    match c with
    | .nothing => Act.status 0
    | .simple line assignments words redirects =>
      modify fun sh => { sh with line := line }
      simple fuel tested assignments words redirects
      answerSignals fuel
      checkStatus tested
    | .sequence first second =>
      command fuel tested first
      command fuel tested second
    | .andThen first second =>
      command fuel true first
      if (← get).status = 0 then command fuel tested second
    | .orElse first second =>
      command fuel true first
      if (← get).status ≠ 0 then command fuel tested second
    | .negated c =>
      command fuel true c
      Act.status (if (← get).status = 0 then 1 else 0)
    | .pipe source sink =>
      let before ← get
      -- a command that never ends is over when nobody reads what it writes
      let written ← withChannel 1 (.pipe []) do
        match ← (child fuel (command fuel tested source)).attempt with
        | .error .endless => modify fun sh => sh.afterChild before
        | .error e => throw e
        | .ok () => return
      let _ ← withChannel 0 written (child fuel (command fuel tested sink))
      checkStatus tested
    | .background c =>
      let _ ← withChannel 0 (.pipe []) (child fuel (command fuel false c))
      modify fun sh =>
        { sh with jobs := sh.jobs.insert (sh.process + 1 + sh.jobs.size) sh.status, status := 0 }
    | .choice condition yes no =>
      command fuel true condition
      if (← get).status = 0 then command fuel tested yes else command fuel tested no
    | .repeated isUntil condition body => loop fuel tested 0 isUntil condition body
    | .each name values body =>
      let values ← match values with
        | none => pure (← get).args
        | some words => fields fuel false words
      Act.status 0
      each fuel tested name values body
    | .cases subject branches =>
      let subject := plain (← expand fuel subject)
      cases fuel tested subject branches
    | .subshell body =>
      child fuel (command fuel tested body)
      checkStatus tested
    | .redirected line body redirects =>
      modify fun sh => { sh with line := line }
      let before ← get
      match ← redirect fuel redirects with
      | some message =>
        Act.complain message 2
        modify (·.withDescriptors before)
      | none =>
        let result ← (command fuel tested body).attempt
        modify (·.withDescriptors before)
        match result with
        | .error e => throw e
        | .ok () => return
    | .define name body =>
      modify fun sh => { sh with functions := sh.functions.insert name body, status := 0 }

/-- Runs a simple command: words come before redirections, and these before assignments. -/
def simple : Nat → Bool → List (Text × Word) → List Word → List Redirect → Act Unit
  | 0, _, _, _, _ => throw .endless
  | fuel + 1, tested, assignments, words, redirects => do
    modify fun sh => { sh with outputStatus := 0 }
    let all ← fields fuel true words
    let before ← get
    let special := all.head?.any specialNames.contains
    match ← redirect fuel redirects with
    | some message =>
      Act.complain message 2
      modify (·.withDescriptors before)
      if special then throw .exit
    | none =>
      -- without a command redirections have no lasting effect, but with `exec` alone they have
      let lasting := all = ["exec".toList]
      let own := !all.isEmpty && !special
      let act : Act Unit := do
        let assigned ← assign fuel assignments
        if own then exporting (assigned.map Prod.fst)
        trace (before.descriptors.get? 2)
          (assigned.map (fun (name, value) => name ++ '=' :: value) ++ all)
        match all with
        | [] => Act.status (← get).outputStatus
        | name :: args => named fuel tested name args
      let result ← (if own then withOwnVars (assignments.map Prod.fst) act else act).attempt
      if !lasting then modify (·.withDescriptors before)
      match result with
      | .error e => throw e
      | .ok () => return

/-- Sets variables. Their values are given back. -/
def assign : Nat → List (Text × Word) → Act (List (Text × Text))
  | 0, _ => throw .endless
  | _ + 1, [] => return []
  | fuel + 1, (name, word) :: rest => do
    let sh ← get
    let value := plain (← expand fuel (withHome (sh.vars.get? "HOME".toList) true word))
    Act.setVar name value
    return (name, value) :: (← assign fuel rest)

/-- Applies redirections from left to right. The first that fails gives a message. -/
def redirect : Nat → List Redirect → Act (Option Text)
  | 0, _ => throw .endless
  | _ + 1, [] => return none
  | fuel + 1, r :: rest => do
    let sh ← get
    let word := if r.kind = .document then r.target
      else withHome (sh.vars.get? "HOME".toList) false r.target
    let target := plain (← expand fuel word)
    match (← get).redirect r.kind r.descriptor target with
    | .ok sh => do
      set sh
      redirect fuel rest
    | .error message => return some message

/-- Runs a function, a command of the shell or a program. -/
def named : Nat → Bool → Text → List Text → Act Unit
  | 0, _, _, _ => throw .endless
  | fuel + 1, tested, name, args => do
    let sh ← get
    if specialNames.contains name then builtin fuel tested name args
    else
      match sh.functions.get? name with
      | some body => asFunction args (command fuel tested body)
      | none =>
        if regularNames.contains name then regular fuel tested name args
        else program fuel name args

/-- Runs a command of the shell whose errors do not end it. -/
def regular : Nat → Bool → Text → List Text → Act Unit
  | 0, _, _, _ => throw .endless
  | fuel + 1, tested, name, args => do
    let result ← (builtin fuel tested name args).attempt
    match result with
    | .error .exit => if name = "command".toList then throw .exit
    | .error e => throw e
    | .ok () => return

def builtin : Nat → Bool → Text → List Text → Act Unit
  | 0, _, _, _ => throw .endless
  | fuel + 1, tested, name, args => do
    let act : Act Unit := match String.ofList name with
      | "eval" => script fuel tested none 0 (Script.ofText 1 (args.intersperse [' ']).flatten)
      | "exec" => replace fuel (if args.head? = some ['-', '-'] then args.tail else args)
      | "." => args.head?.forM (file fuel)
      | "type" => describeAll args
      | _ => (Builtin.run? name args).getD (notFound name)
    if name = "command".toList then direct fuel tested args else inContext name act

/-- Runs a program in the place of the shell. -/
def replace : Nat → List Text → Act Unit
  | 0, _ => throw .endless
  | _ + 1, [] => Act.status 0
  | fuel + 1, name :: args => do
    if isProgram (programName name) then program fuel name args
    else notFound name
    modify fun sh => { sh with traps := .empty }
    throw .exit

/-- Runs the script in a file as if it stood here. -/
def file : Nat → Text → Act Unit
  | 0, _ => throw .endless
  | fuel + 1, path => do
    let sh ← get
    let content := if path.contains '/' then readFile sh.disk path else .error .notFound
    match content with
    | .error _ =>
      if path.contains '/' then
        Act.fail ("cannot open ".toList ++ path ++ ": No such file".toList)
      else Act.fail (path ++ ": not found".toList)
    | .ok s =>
      let act := script fuel false (some (Text.lines s)) 0 (Script.ofText 1 s)
      match ← (inContext path act).attempt with
      | .error .function => return
      | .error e => throw e
      | .ok () => return

/-- Runs a command that is no function, or says what names are. -/
def direct : Nat → Bool → List Text → Act Unit
  | 0, _, _ => throw .endless
  | _ + 1, _, ['-', 'v'] :: names => resolveAll (names.take 1)
  | _ + 1, _, ['-', 'V'] :: names => describeAll names
  | fuel + 1, tested, args => do
    let args := args.dropWhile fun a => a = ['-', 'p'] || a = ['-', '-']
    match args with
    | [] => Act.status 0
    | name :: args =>
      if name = "exit".toList then builtin fuel tested name args
      else if specialNames.contains name then regular fuel tested name args
      else if regularNames.contains name then regular fuel tested name args
      else program fuel name args

def program : Nat → Text → List Text → Act Unit
  | 0, _, _ => throw .endless
  | fuel + 1, name, args => do
    match String.ofList (programName name) with
    | "sh" => shell fuel args
    | "dash" => shell fuel args
    | "env" => env fuel args
    | "xargs" =>
      match Xargs.spec.read (args.length + 1) args with
      | .error message =>
        Act.write 2 (Text.endLine ("xargs: ".toList ++ message))
        Act.status 1
      | .ok given =>
        let sh ← get
        let commands := Xargs.commands given (sh.waiting 0)
        modify (·.withRest 0 [])
        Act.status 0
        xargs fuel commands
    | "which" => locateAll args
    | "nohup" => wrapped fuel args
    | "nice" => wrapped fuel args
    | "timeout" => wrapped fuel args.tail
    | bare =>
      match tool? bare.toList with
      | some tool => useTool tool args
      | none => notFound name

/-- Runs a program that is given with its arguments. -/
def wrapped : Nat → List Text → Act Unit
  | 0, _ => throw .endless
  | _ + 1, [] => Act.status 125
  | fuel + 1, name :: args => program fuel name args

/-- Runs programs one after another. The status says if one failed. -/
def xargs : Nat → List (List Text) → Act Unit
  | 0, _ => throw .endless
  | _ + 1, [] => return
  | fuel + 1, words :: rest => do
    let worst := (← get).status
    match words with
    | name :: args =>
      if isProgram (programName name) then
        let _ ← withChannel 0 (.pipe []) (program fuel name args)
        let status := (← get).status
        Act.status (if status = 0 then worst else if 126 ≤ status then status else 123)
        xargs fuel rest
      else
        Act.write 2 ("xargs: ".toList ++ name ++ ": No such file or directory\n".toList)
        Act.status 127
    | [] => return

/-- Runs a program with other variables. -/
def env : Nat → List Text → Act Unit
  | 0, _ => throw .endless
  | fuel + 1, args => do
    let sh ← get
    match args with
    | [] =>
      Act.write 1 (sh.exported.flatMap fun name =>
        match sh.vars.get? name with
        | some value => Text.endLine (name ++ '=' :: value)
        | none => [])
      Act.status 0
    | a :: rest =>
      -- the variables come back when the program has ended
      if a = ['-', 'i'] || a = ['-'] then
        let _ ← (do
          set { sh with vars := .empty, exported := [] }
          env fuel rest)
        modify fun after => { after with vars := sh.vars, exported := sh.exported }
      else if a = ['-', 'u'] then
        modify fun sh => { sh with
          vars := sh.vars.erase (rest.headD [])
          exported := sh.exported.filter (· ≠ rest.headD []) }
        env fuel rest.tail
        modify fun after => { after with vars := sh.vars, exported := sh.exported }
      else
        match Builtin.splitAssignment a with
        | (name, some value) =>
          withOwnVars [name] do
            Act.setVar name value
            exporting [name]
            env fuel rest
        | (name, none) =>
          if isProgram (programName name) then program fuel name rest
          else
            Act.write 2 ("env: \x27".toList ++ name ++ "\x27: No such file or directory\n".toList)
            Act.status 127

def shell : Nat → List Text → Act Unit
  | 0, _ => throw .endless
  | fuel + 1, args => do
    let parent ← get
    match Invocation.ofArgs args with
    | .error message =>
      Act.write 2 ("sh: 0: ".toList ++ message ++ ['\n'])
      Act.status 2
    | .ok invocation =>
      set { parent with
        process := parent.process + 1000
        name := invocation.name.getD "sh".toList
        args := invocation.args
        line := 0
        context := []
        -- the separators of fields are not handed down
        vars := parent.exported.foldl (fun vars name =>
          match parent.vars.get? name with
          | some value => if name = "IFS".toList then vars else vars.insert name value
          | none => vars) State.ownVariables
        fixed := []
        functions := .empty
        aliases := .empty
        traps := .empty
        options := invocation.options
        saved := []
        loops := 0
        status := 0
        jobs := .empty
        optionIndex := 1
        optionPlace := 0 }
      let result ← (main fuel invocation.source).attempt
      -- the disk and the channels are shared, and all else was its own
      modify fun child => child.afterChild parent
      match result with
      | .error .endless => throw .endless
      | .error (.killed n) =>
        (deathNotice? n).forM fun notice => Act.write 2 (Text.endLine notice)
        Act.status (128 + n)
      | _ => return

/-- Runs what a shell was started with, up to its end. -/
def main : Nat → Source → Act Unit
  | 0, _ => throw .endless
  | fuel + 1, source => do
    let sh ← get
    -- a script from the input is read up to its end before it runs
    let run : Act Unit := match source with
      | .command s => script fuel false none 0 (Script.ofText 1 s)
      | .input => do
        let s := sh.waiting 0
        modify (·.withRest 0 [])
        script fuel false (some (Text.lines s)) 0 (Script.ofText 1 s)
      | .file path =>
        match readFile sh.disk path with
        | .ok s => script fuel false (some (Text.lines s)) 0 (Script.ofText 1 s)
        | .error _ => do
          Act.write 2 ("sh: 0: cannot open ".toList ++ path ++ ": No such file\n".toList)
          Act.status 2
    match ← run.attempt with
    | .error .endless => throw .endless
    | .error (.killed n) => throw (.killed n)
    | _ => lastWords fuel

/-- Runs an action in a shell of its own. -/
def child : Nat → Act Unit → Act Unit
  | 0, _ => throw .endless
  | fuel + 1, act => isolated do
    match ← act.attempt with
    | .error .endless => throw .endless
    | .error (.killed n) => throw (.killed n)
    | _ => lastWords fuel

/-- Does what is to be done at the end of a shell. The status stays, unless it is given again. -/
def lastWords : Nat → Act Unit
  | 0 => throw .endless
  | fuel + 1 => do
    let sh ← get
    match sh.traps.get? "EXIT".toList with
    | none => return
    | some action =>
      set { sh with traps := sh.traps.erase "EXIT".toList }
      match ← (script fuel false none 0 (Script.ofText 1 action)).attempt with
      | .error .exit => return
      | .error .endless => throw .endless
      | .error (.killed n) => throw (.killed n)
      | _ => Act.status sh.status

/-- Does what is to be done for the signals that arrived. The status stays. -/
def answerSignals : Nat → Act Unit
  | 0 => throw .endless
  | fuel + 1 => do
    let sh ← get
    match sh.pending with
    | [] => return
    | signal :: rest =>
      set { sh with pending := rest }
      (sh.traps.get? signal).forM fun action =>
        script fuel false none 0 (Script.ofText 1 action)
      Act.status sh.status
      answerSignals fuel

/-- Runs a loop with a condition. The status is that of the last round. -/
def loop : Nat → Bool → Nat → Bool → Command → Command → Act Unit
  | 0, _, _, _, _, _ => throw .endless
  | fuel + 1, tested, status, isUntil, condition, body => do
    match ← inLoop (command fuel true condition) with
    | .left => return
    | .again => loop fuel tested status isUntil condition body
    | .done =>
      if ((← get).status = 0) = isUntil then Act.status status
      else
        match ← inLoop (command fuel tested body) with
        | .left => return
        | _ => loop fuel tested (← get).status isUntil condition body

/-- Runs a command for each value of a variable. -/
def each : Nat → Bool → Text → List Text → Command → Act Unit
  | 0, _, _, _, _ => throw .endless
  | _ + 1, _, _, [], _ => return
  | fuel + 1, tested, name, value :: rest, body => do
    Act.setVar name value
    match ← inLoop (command fuel tested body) with
    | .left => return
    | _ => each fuel tested name rest body

/-- Runs the first branch with a pattern that matches. -/
def cases : Nat → Bool → Text → List (List Word × Command) → Act Unit
  | 0, _, _, _ => throw .endless
  | _ + 1, _, _, [] => Act.status 0
  | fuel + 1, tested, subject, (patterns, body) :: rest => do
    if ← matchesAny fuel subject patterns then command fuel tested body
    else cases fuel tested subject rest

def matchesAny : Nat → Text → List Word → Act Bool
  | 0, _, _ => throw .endless
  | _ + 1, _, [] => return false
  | fuel + 1, subject, p :: rest => do
    let sh ← get
    let pattern := patternOf (← expand fuel (withHome (sh.vars.get? "HOME".toList) false p))
    if matchesPattern pattern subject then return true
    else matchesAny fuel subject rest

/-- Runs a script line by line. The lines of its text are shown as they are read, if that is asked
for; so many were read before. -/
def script : Nat → Bool → Option (List Text) → Nat → Script → Act Unit
  | 0, _, _, _, _ => throw .endless
  | fuel + 1, tested, lines, shown, s => do
    let sh ← get
    let reveal := fun (last : Nat) => do
      if (← get).options.contains 'v' then
        lines.forM fun lines => Act.write 2 ((lines.take last).drop shown).flatten
    match s.next? sh.aliases with
    | .error (line, e) =>
      reveal line
      modify fun sh => { sh with line := line }
      Act.fail e.message
    | .ok none =>
      if shown = 0 then Act.status 0
      reveal s.lastLine
    | .ok (some (c, rest)) =>
      reveal rest.line
      command fuel tested c
      script fuel tested lines (max 1 rest.line) rest

/-- The output of a script without the line feeds at its end. -/
def output : Nat → Nat → Text → Bool → Act Text
  | 0, _, _, _ => throw .endless
  | fuel + 1, line, s, loose => do
    let status := (← get).status
    let act : Act Unit := do
      match readInner (← get).aliases line s loose with
      | .ok c => command fuel false c
      | .error (line, e) =>
        modify fun sh => { sh with line := line }
        Act.fail e.message
    let written ← withChannel 1 (.pipe []) (child fuel act)
    modify fun sh => { sh with outputStatus := sh.status, status := status }
    return Text.trimEndWhere (· = '\n') ((written.waiting (← get).disk).filter (· ≠ '\x00'))

def expand : Nat → Word → Act (List Piece)
  | 0, _ => throw .endless
  | _ + 1, [] => return []
  | fuel + 1, part :: rest => do
    let pieces ← match part with
      | .literal content quoted => pure [Piece.chars content quoted]
      | .param name op argument quoted => param fuel name op argument quoted
      | .output line s loose quoted =>
        pure [.ofValue quoted (← output fuel line s loose)]
      | .sum expression quoted => do
        let source := plain (← expand fuel expression)
        let sh ← get
        match (Sum.parse source).bind fun e => e.eval ⟨sh.vars.get?, .empty⟩ with
        | .ok (n, vars) =>
          vars.changes.entries.forM fun (name, value) => Act.setVar name value
          pure [.ofValue quoted (textOfInt n)]
        | .error e => Act.fail (e.message source)
      | .malformed => Act.fail "Bad substitution".toList
    return pieces ++ (← expand fuel rest)

def param : Nat → Text → ParamOp → Word → Bool → Act (List Piece)
  | 0, _, _, _, _ => throw .endless
  | fuel + 1, name, op, argument, quoted => do
    let sh ← get
    let value := sh.param? name
    -- with the option `u` a parameter that is not set is an error
    let present : Act Unit := do
      if value.isNone && sh.options.contains 'u' && name ≠ ['@'] && name ≠ ['*'] then
        Act.fail (name ++ ": parameter not set".toList)
    let piece := fun s : Text => [Piece.ofValue quoted s]
    match op with
    | .value =>
      present
      return sh.paramPieces name quoted
    | .length =>
      present
      return piece (Text.ofNat (value.getD []).length)
    | .dropFront longest =>
      present
      let pattern := patternOf (← expand fuel argument)
      return piece (dropFront longest pattern (value.getD []))
    | .dropBack longest =>
      present
      let pattern := patternOf (← expand fuel argument)
      return piece (dropBack longest pattern (value.getD []))
    | .default orEmpty =>
      if sh.isAbsent name orEmpty then return splittable quoted (← expand fuel argument)
      else return sh.paramPieces name quoted
    | .alternative orEmpty =>
      if sh.isAbsent name orEmpty then return []
      else return splittable quoted (← expand fuel argument)
    | .assigned orEmpty =>
      if sh.isAbsent name orEmpty then
        let s := plain (← expand fuel argument)
        if isName name then Act.setVar name s
        else Act.fail (name ++ ": bad variable name".toList)
        return piece s
      else return sh.paramPieces name quoted
    | .required orEmpty =>
      if sh.isAbsent name orEmpty then
        let s := plain (← expand fuel argument)
        let usual := "parameter not set".toList ++ if orEmpty then " or null".toList else []
        Act.fail (name ++ ": ".toList ++ if argument.isEmpty then usual else s)
      else return sh.paramPieces name quoted

/-- The fields of words. After the name of a command that declares variables, values of assignments
are not split. -/
def fields : Nat → Bool → List Word → Act (List Text)
  | 0, _, _ => throw .endless
  | _ + 1, _, [] => return []
  | fuel + 1, leads, word :: rest => do
    let sh ← get
    let home := sh.vars.get? "HOME".toList
    let pieces ← expand fuel (withHome home false word)
    let own := (← get).fields pieces
    if leads && own.head?.any declares then
      return own ++ (← declared fuel rest)
    else return own ++ (← fields fuel (leads && own.isEmpty) rest)

/-- The fields of words among which are assignments. -/
def declared : Nat → List Word → Act (List Text)
  | 0, _ => throw .endless
  | _ + 1, [] => return []
  | fuel + 1, word :: rest => do
    let sh ← get
    let home := sh.vars.get? "HOME".toList
    let own ← match assignment? word with
      | some (name, value) => do
        pure [name ++ '=' :: plain (← expand fuel (withHome home true value))]
      | none => do
        pure ((← get).fields (← expand fuel (withHome home false word)))
    return own ++ (← declared fuel rest)

end

end Run

end Weave.Shell

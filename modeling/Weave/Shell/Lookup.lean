import Weave.Shell.Builtin
import Weave.Shell.Tool.Table

/-!
# Weave.Shell.Lookup — what the name of a command means

A name is a word of the grammar, a command of the shell, a function, an alias or a program. Programs
are also known by their paths in the usual directories.
-/

namespace Weave.Shell

/-! ## Programs -/

/-- The name that a program has in the usual directories for programs. -/
def programName (name : Text) : Text :=
  let dirs := ["/bin/", "/usr/bin/"].map String.toList
  (dirs.findSome? fun dir => Text.after? dir name).getD name

def isProgram (name : Text) : Bool :=
  (tool? name).isSome || (["sh", "dash", "env", "xargs", "nohup", "nice", "timeout",
    "which"].map String.toList).contains name

/-- Complains that there is no program with a name. -/
def notFound (name : Text) : Act Unit := do
  let sh ← get
  if name.contains '/' && fileExists sh.disk name then
    Act.complain (name ++ ": Permission denied".toList) 126
  else if name.isEmpty then Act.complain ": Permission denied".toList 127
  else Act.complain (name ++ ": not found".toList) 127

/-! ## What commands are -/

def isKeyword (name : Text) : Bool :=
  Token.name.reserved.contains name

/-- Says what kind of command a name is. -/
def describe (sh : State) (name : Text) : Option Text :=
  let bare := programName name
  if isKeyword name then some " is a shell keyword".toList
  else
    match sh.aliases.get? name with
    | some meaning => some (" is an alias for ".toList ++ meaning)
    | none =>
      if specialNames.contains name then some " is a special shell builtin".toList
      else if (sh.functions.get? name).isSome then some " is a shell function".toList
      else if regularNames.contains name then some " is a shell builtin".toList
      else if isProgram bare && (name = bare || name.contains '/') then
        some (" is ".toList ++ if name = bare then "/usr/bin/".toList ++ name else name)
      else none

/-- Says what a command name leads to, so that a script can use it. -/
def resolve (sh : State) (name : Text) : Option Text :=
  let bare := programName name
  if isKeyword name || specialNames.contains name || regularNames.contains name
    || (sh.functions.get? name).isSome then some name
  else
    match sh.aliases.get? name with
    | some meaning => some ("alias ".toList ++ name ++ '=' :: singleQuoted meaning)
    | none =>
      if isProgram bare then some (if name = bare then "/usr/bin/".toList ++ name else name)
      else none

/-- Prints what names are. -/
def describeAll (names : List Text) : Act Unit := do
  Act.status 0
  names.forM fun name => do
    match describe (← get) name with
    | some s => Act.write 1 (name ++ s ++ ['\n'])
    | none =>
      Act.write 1 (name ++ ": not found\n".toList)
      Act.status 127

/-- Prints what names lead to. -/
def resolveAll (names : List Text) : Act Unit := do
  Act.status 0
  names.forM fun name => do
    match resolve (← get) name with
    | some s => Act.write 1 (Text.endLine s)
    | none => Act.status 127

/-- Prints the paths of programs. -/
def locateAll (names : List Text) : Act Unit := do
  Act.status 0
  names.forM fun name => do
    let bare := programName name
    if isProgram bare then
      Act.write 1 (Text.endLine (if name = bare then "/usr/bin/".toList ++ name else name))
    else Act.status 1

end Weave.Shell

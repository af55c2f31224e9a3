import Weave.Shell.State

/-!
# Weave.Shell.Redirection — descriptors that are changed for a command

What a redirection whose target is expanded does to the descriptors of a shell. A redirection that
fails has a reason.
-/

namespace Weave.Shell

namespace State

/-- Where a path leads to a file for output, which is created if there is none. -/
def outputFile (sh : State) (path : Text) (emptied : Bool) : Except IoError (Location × Disk) := do
  let old := match readFile sh.disk path with
    | .ok s => if emptied then [] else s
    | .error _ => []
  return (locationOf sh.disk path, ← writeFile sh.disk path old)

def openOutput (sh : State) (descriptor : Nat) (path : Text) (emptied append : Bool) :
    Except Text State :=
  match sh.outputFile path emptied with
  | .ok (location, disk) =>
    .ok ({ sh with disk := disk }.openChannel descriptor (.file location 0 append))
  | .error e =>
    let reason := match e with
      | .notFound => "Directory nonexistent".toList
      | e => e.reason
    .error ("cannot create ".toList ++ path ++ ": ".toList ++ reason)

def openInput (sh : State) (descriptor : Nat) (path : Text) : Except Text State :=
  match statFile sh.disk path with
  | .ok _ => .ok (sh.openChannel descriptor (.file (locationOf sh.disk path) 0 false))
  | .error e =>
    let reason := match e with
      | .notFound => "No such file".toList
      | e => e.reason
    .error ("cannot open ".toList ++ path ++ ": ".toList ++ reason)

/-- Lets a descriptor be the same as another one, or closes it. -/
def duplicate (sh : State) (descriptor : Nat) (target : Text) : Except Text State :=
  if target = ['-'] then .ok { sh with descriptors := sh.descriptors.erase descriptor }
  else if !Text.isDigits target then .error ("Bad fd number".toList)
  else
    match sh.descriptors.get? (Text.toNat target) with
    | some id => .ok { sh with descriptors := sh.descriptors.insert descriptor id }
    | none => .error (target ++ ": Bad file descriptor".toList)

/-- The descriptor that the name of a device stands for. -/
def deviceDescriptor? (path : Text) : Option Text :=
  match String.ofList path with
  | "/dev/stdin" => some ['0']
  | "/dev/stdout" => some ['1']
  | "/dev/stderr" => some ['2']
  | _ => (Text.after? "/dev/fd/".toList path).filter Text.isDigits

/-- Applies a redirection whose target is expanded. -/
def redirect (sh : State) (kind : RedirectKind) (descriptor : Nat) (target : Text) :
    Except Text State :=
  match if kind = .document then none else deviceDescriptor? target with
  | some other => sh.duplicate descriptor other
  | none =>
    match kind with
    | .input => sh.openInput descriptor target
    | .output =>
      if sh.options.contains 'C' && isRegular sh.disk target then
        .error ("cannot create ".toList ++ target ++ ": File exists".toList)
      else sh.openOutput descriptor target true false
    | .replace => sh.openOutput descriptor target true false
    | .append => sh.openOutput descriptor target false true
    | .update => sh.openOutput descriptor target false false
    | .duplicate => sh.duplicate descriptor target
    | .document => .ok (sh.openChannel descriptor (.pipe [target]))

end State

end Weave.Shell

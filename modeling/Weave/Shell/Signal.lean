import Weave.Text.Basic

/-!
# Weave.Shell.Signal — signals

The names and numbers of signals, and what they do to a process that is not prepared for them.
-/

namespace Weave.Shell

/-- The names of the signals in the order of their numbers. The end of a shell is signal 0. -/
def signalNames : List Text :=
  ["EXIT", "HUP", "INT", "QUIT", "ILL", "TRAP", "ABRT", "BUS", "FPE", "KILL", "USR1", "SEGV",
   "USR2", "PIPE", "ALRM", "TERM", "STKFLT", "CHLD", "CONT", "STOP", "TSTP", "TTIN", "TTOU", "URG",
   "XCPU", "XFSZ", "VTALRM", "PROF", "WINCH", "IO", "PWR", "SYS"].map String.toList

/-- The number of a signal that is given by its name or its number. -/
def signal? (s : Text) : Option Nat :=
  if Text.isDigits s then
    if Text.toNat s < signalNames.length then some (Text.toNat s) else none
  else
    let name := s.map Char.toUpper
    signalNames.findIdx? (· = name)

def signalName (n : Nat) : Text :=
  signalNames.getD n []

/-- Whether a signal does nothing to a process that is not prepared for it. -/
def isHarmless (n : Nat) : Bool :=
  ([0, 17, 18, 23, 28] : List Nat).contains n

/-- What is said about a process that a signal ended, where anything is said. -/
def deathNotice? (n : Nat) : Option Text :=
  match String.ofList (signalName n) with
  | "HUP" => some "Hangup".toList
  | "QUIT" => some "Quit".toList
  | "ILL" => some "Illegal instruction".toList
  | "ABRT" => some "Aborted".toList
  | "BUS" => some "Bus error".toList
  | "FPE" => some "Floating point exception".toList
  | "KILL" => some "Killed".toList
  | "USR1" => some "User defined signal 1".toList
  | "SEGV" => some "Segmentation fault".toList
  | "USR2" => some "User defined signal 2".toList
  | "ALRM" => some "Alarm clock".toList
  | "TERM" => some "Terminated".toList
  | _ => none

end Weave.Shell

import Weave.Shell.Tool.Basic

/-!
# Weave.Shell.Tool.Cat — files one after another

Prints files, perhaps with numbered lines, without repeated empty lines, or with signs for what
cannot be seen.
-/

namespace Weave.Shell.Cat

/-- What is done to lines and bytes. -/
structure Style where
  number : Bool
  /-- Only lines that are not empty are numbered. -/
  numberFull : Bool
  /-- Of several empty lines only the first is printed. -/
  squeeze : Bool
  showEnds : Bool
  showTabs : Bool
  /-- Bytes that cannot be seen are shown by signs. -/
  showHidden : Bool
deriving Repr, DecidableEq, Inhabited

def Style.of (given : Given) : Style where
  number := given.has 'n' || given.has 'b'
  numberFull := given.has 'b'
  squeeze := given.has 's'
  showEnds := given.has 'E' || given.has 'A' || given.has 'e'
  showTabs := given.has 'T' || given.has 'A' || given.has 't'
  showHidden := given.has 'v' || given.has 'A' || given.has 'e' || given.has 't'

def sign (c : Char) : Text :=
  if c = '\x7f' then ['^', '?']
  else if c < ' ' then ['^', Char.ofNat (c.toNat + 64)]
  else [c]

/-- What is printed for a byte. -/
def Style.byte (style : Style) (c : Char) : Text :=
  if c = '\t' then (if style.showTabs then sign c else [c])
  else if !style.showHidden then [c]
  else if c.toNat < 128 then sign c
  else "M-".toList ++ sign (Char.ofNat (c.toNat - 128))

def lineNumber (n : Nat) : Text :=
  padLeft 6 ' ' (Text.ofNat n) ++ ['\t']

/-- What is known between two bytes. -/
structure Progress where
  /-- The number of the last numbered line. -/
  number : Nat
  /-- Whether a line begins here. -/
  atStart : Bool
  /-- The number of empty lines before. -/
  empty : Nat
deriving Repr, DecidableEq, Inhabited

/-- What is printed at the end of a line before the line feed. -/
def Style.ending (style : Style) : Text :=
  if style.showEnds then ['$'] else []

/-- What is printed for bytes, and what is known after them. A carriage return before the end of a
line is shown where ends are. -/
def Style.show (style : Style) : Progress → Text → Text × Progress
  | p, [] => ([], p)
  | p, '\n' :: rest =>
    if p.atStart then
      if style.squeeze && 1 ≤ p.empty then style.show p rest
      else
        let counts := style.number && !style.numberFull
        let n := if counts then p.number + 1 else p.number
        let (s, q) := style.show ⟨n, true, p.empty + 1⟩ rest
        ((if counts then lineNumber n else []) ++ style.ending ++ '\n' :: s, q)
    else
      let (s, q) := style.show ⟨p.number, true, 0⟩ rest
      (style.ending ++ '\n' :: s, q)
  | p, c :: rest =>
    let counts := style.number && p.atStart
    let n := if counts then p.number + 1 else p.number
    let shown := if c = '\r' && style.showEnds && rest.head? = some '\n' then sign c
      else style.byte c
    let (s, q) := style.show ⟨n, false, 0⟩ rest
    ((if counts then lineNumber n else []) ++ shown ++ s, q)

def spec : OptionSpec where
  flags := "AbeEnstTuv"
  valued := ""
  long := [("number-nonblank", 'b'), ("number", 'n'), ("squeeze-blank", 's'),
    ("show-nonprinting", 'v'), ("show-ends", 'E'), ("show-tabs", 'T'), ("show-all", 'A')]

/-- Prints files one after another. -/
def tool : Tool :=
  spec.tool "cat" 1 fun given => do
    let style := Style.of given
    let paths := if given.operands.isEmpty then [['-']] else given.operands
    let _ ← paths.foldlM (fun p path => do
      match ← Work.source path with
      | .ok s =>
        let (shown, q) := style.show p s
        Work.print shown
        return q
      | .error e =>
        Work.complainOf "cat".toList path e 1
        return p) ⟨0, true, 0⟩

end Weave.Shell.Cat

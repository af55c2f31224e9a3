import Weave.Text.Basic

/-!
# Weave.Shell.Pattern — patterns for texts

A pattern is a text in which each character is marked as quoted or not. Unquoted, a star matches any
text, a question mark any character and brackets one of the characters between them.
-/

namespace Weave.Shell

/-- A text whose characters are marked as quoted or not. -/
abbrev Marked : Type :=
  List (Char × Bool)

/-- A text with all characters marked alike. -/
def mark (quoted : Bool) (s : Text) : Marked :=
  s.map (·, quoted)

/-- The text without the marks. -/
def unmark (s : Marked) : Text :=
  s.map Prod.fst

/-- Whether a character can match more than itself. -/
def isWild (c : Char × Bool) : Bool :=
  !c.2 && (c.1 = '*' || c.1 = '?' || c.1 = '[')

/-! ## Sets of characters -/

def classNames : List Text :=
  ["alpha", "digit", "alnum", "upper", "lower", "space", "blank", "xdigit", "punct", "graph",
   "print", "cntrl"].map String.toList

/-- Whether a character belongs to a class of ASCII characters. -/
def isInClass (name : Text) (c : Char) : Bool :=
  match String.ofList name with
  | "alpha" => c.isAlpha
  | "digit" => c.isDigit
  | "alnum" => c.isAlphanum
  | "upper" => c.isUpper
  | "lower" => c.isLower
  | "space" => " \t\n\r\x0b\x0c".toList.contains c
  | "blank" => c = ' ' || c = '\t'
  | "xdigit" => c.isDigit || ('a' ≤ c && c ≤ 'f') || ('A' ≤ c && c ≤ 'F')
  | "punct" => '!' ≤ c && c ≤ '~' && !c.isAlphanum
  | "graph" => '!' ≤ c && c ≤ '~'
  | "print" => ' ' ≤ c && c ≤ '~'
  | "cntrl" => c < ' ' || c = '\x7f'
  | _ => false

/-- Whether a character is one of those between brackets, where a hyphen stands for a range. The
name of a class that was begun is given backwards. -/
def isListed (c : Char) : Option Text → Marked → Bool
  | some name, (':', false) :: (']', false) :: rest =>
    isInClass name.reverse c || isListed c none rest
  | some name, (a, _) :: rest => isListed c (some (a :: name)) rest
  | none, ('[', false) :: (':', false) :: rest => isListed c (some []) rest
  | none, (a, _) :: ('-', false) :: (b, _) :: rest => (a ≤ c && c ≤ b) || isListed c none rest
  | none, (a, _) :: rest => a = c || isListed c none rest
  | _, [] => false

/-- Whether the characters between brackets match a character. -/
def matchesSet (c : Char) : Marked → Bool
  | ('!', false) :: rest => !isListed c none rest
  | set => isListed c none set

/-- Where in a set of characters one is. -/
inductive SetPlace where
  | start
  /-- After a mark of exclusion. -/
  | first
  | inside
  /-- In the name of a class. -/
  | named
deriving Repr, DecidableEq, Inhabited

/-- The number of characters before the bracket that closes a set. One at the start of the set does
not close it. -/
def setLength? : SetPlace → Marked → Option Nat
  | .start, ('!', false) :: rest => (setLength? .first rest).map (· + 1)
  | .inside, (']', false) :: _ => some 0
  | .named, (':', false) :: (']', false) :: rest => (setLength? .inside rest).map (· + 2)
  | .named, _ :: rest => (setLength? .named rest).map (· + 1)
  | _, ('[', false) :: (':', false) :: rest => (setLength? .named rest).map (· + 2)
  | _, _ :: rest => (setLength? .inside rest).map (· + 1)
  | _, [] => none

/-- The characters between brackets and the rest of the pattern, after the opening bracket. -/
def splitSet? (pattern : Marked) : Option (Marked × Marked) :=
  (setLength? .start pattern).map fun n => (pattern.take n, pattern.drop (n + 1))

theorem length_le_of_splitSet? {pattern set after : Marked}
    (h : splitSet? pattern = some (set, after)) : after.length ≤ pattern.length := by
  simp only [splitSet?, Option.map_eq_some_iff, Prod.mk.injEq] at h
  obtain ⟨n, _, _, rfl⟩ := h
  rw [List.length_drop]
  omega

/-! ## Matching -/

def matchesPattern (pattern : Marked) (s : Text) : Bool :=
  match pattern with
  | [] => s.isEmpty
  | (p, quoted) :: rest =>
    if !quoted && p = '*' then
      matchesPattern rest s ||
        match s with
        | [] => false
        | _ :: s => matchesPattern ((p, quoted) :: rest) s
    else
      match s with
      | [] => false
      | c :: s =>
        if !quoted && p = '?' then matchesPattern rest s
        else
          match _h : (if !quoted && p = '[' then splitSet? rest else none) with
          | some (set, after) => matchesSet c set && matchesPattern after s
          | none => p = c && matchesPattern rest s
termination_by pattern.length + s.length
decreasing_by
  · simp only [List.length_cons]; omega
  · simp only [List.length_cons]; omega
  · simp only [List.length_cons]; omega
  · have := length_le_of_splitSet? (Option.ite_none_right_eq_some.1 _h).2
    simp only [List.length_cons]; omega
  · simp only [List.length_cons]; omega

/-- The numbers from 0 to `n`, or from `n` down to 0. -/
def lengthsTo (n : Nat) (downwards : Bool) : List Nat :=
  if downwards then (List.range (n + 1)).reverse else List.range (n + 1)

/-- The text without the shortest or longest beginning that a pattern matches. -/
def dropFront (longest : Bool) (pattern : Marked) (s : Text) : Text :=
  match (lengthsTo s.length longest).find? fun n => matchesPattern pattern (s.take n) with
  | some n => s.drop n
  | none => s

/-- The text without the shortest or longest end that a pattern matches. -/
def dropBack (longest : Bool) (pattern : Marked) (s : Text) : Text :=
  match (lengthsTo s.length longest).find? fun n =>
    matchesPattern pattern (s.drop (s.length - n)) with
  | some n => s.take (s.length - n)
  | none => s

end Weave.Shell

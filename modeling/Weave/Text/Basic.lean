/-!
# Weave.Text.Basic — texts, their lines and their ends

A text is the list of its characters. A document is read line by line: `Text.lines` cuts after
every line feed and loses nothing (`flatten_lines`), and `Text.chomp` gives the line without its
terminator.
-/

namespace Weave

/-- A text is the list of its characters. -/
abbrev Text := List Char

namespace Text

/-! ## Lines -/

/-- The pieces of a text cut after every line feed. Only the last piece can lack one, and no
piece is empty. -/
def lines : Text → List Text
  | [] => []
  | c :: cs =>
    if c = '\n' then [c] :: lines cs
    else
      match lines cs with
      | [] => [[c]]
      | l :: ls => (c :: l) :: ls

/-- Cutting into lines loses nothing. -/
theorem flatten_lines (s : Text) : (lines s).flatten = s := by
  fun_induction lines s with
  | case1 => rfl
  | case2 cs ih => simp [ih]
  | case3 c cs _ h ih => simp_all
  | case4 c cs _ l ls h ih => simp_all

/-- The text without its last character, if that is `c`. -/
def stripLast (c : Char) (s : Text) : Text :=
  if s.getLast? = some c then s.dropLast else s

/-- A line without its terminator: one final line feed and then one final carriage return go. -/
def chomp (line : Text) : Text :=
  stripLast '\r' (stripLast '\n' line)

/-- A line with the line feed that ends it. -/
def endLine (line : Text) : Text :=
  line ++ ['\n']

/-! ## Beginnings and ends -/

/-- What follows `start` in `s`, when `s` begins with it. -/
def after? (start s : Text) : Option Text :=
  start.isPrefixOf? s

/-- What precedes `ending` in `s`, when `s` ends with it. -/
def before? (ending s : Text) : Option Text :=
  (ending.reverse.isPrefixOf? s.reverse).map List.reverse

/-- The text before the first occurrence of `mark` and the text after it. -/
def splitAround? (mark : Text) : Text → Option (Text × Text)
  | [] => if mark.isEmpty then some ([], []) else none
  | c :: cs =>
    match after? mark (c :: cs) with
    | some rest => some ([], rest)
    | none => (splitAround? mark cs).map fun (before, after) => (c :: before, after)

/-- The text without the characters at its start that satisfy `p`. -/
def trimStartWhere (p : Char → Bool) (s : Text) : Text :=
  s.dropWhile p

/-- The text without the characters at its end that satisfy `p`. -/
def trimEndWhere (p : Char → Bool) (s : Text) : Text :=
  (s.reverse.dropWhile p).reverse

/-! ## Numbers -/

/-- The decimal digits of a number. -/
def ofNat (n : Nat) : Text :=
  Nat.toDigits 10 n

/-- Whether a text is a non-empty run of the digits 0 to 9. -/
def isDigits (s : Text) : Bool :=
  !s.isEmpty && s.all Char.isDigit

/-- The value of a run of decimal digits. -/
def toNat (digits : Text) : Nat :=
  Nat.ofDigitChars 10 digits 0

end Text

end Weave

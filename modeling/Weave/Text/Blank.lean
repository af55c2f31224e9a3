import Weave.Text.Basic

/-!
# Weave.Text.Blank — white space

The characters with the Unicode property White_Space, and what is built on them: the words of a
text and trimming. Information separators (U+001C to U+001F), the zero width space and the byte
order mark are not blank.
-/

namespace Weave.Text

/-- The code points with the property White_Space. -/
def blankCodePoints : List Nat :=
  [0x9, 0xa, 0xb, 0xc, 0xd, 0x20, 0x85, 0xa0, 0x1680, 0x2000, 0x2001, 0x2002, 0x2003, 0x2004,
   0x2005, 0x2006, 0x2007, 0x2008, 0x2009, 0x200a, 0x2028, 0x2029, 0x202f, 0x205f, 0x3000]

/-- Whether a character is white space. -/
def isBlank (c : Char) : Bool :=
  blankCodePoints.contains c.toNat

/-- The maximal runs of characters that are not white space, in order. -/
def words (s : Text) : List Text :=
  (s.splitOnP isBlank).filter (fun w => !w.isEmpty)

/-- The text without white space at its start. -/
def trimStart (s : Text) : Text :=
  trimStartWhere isBlank s

/-- The text without white space at its end. -/
def trimEnd (s : Text) : Text :=
  trimEndWhere isBlank s

/-- The text without white space at either end. -/
def trim (s : Text) : Text :=
  trimEnd (trimStart s)

end Weave.Text

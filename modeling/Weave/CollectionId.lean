import Weave.Request

/-!
# Weave.CollectionId — names of collections

Blocks of a page are gathered in collections. A collection belongs to one of two families and
has an id in it: a number of 64 bits, or the public id `*`, whose text is put in front of every
numbered collection of its family. Leading zeros do not matter: `parse?` goes by value.
-/

namespace Weave

/-! ## Families -/

/-- The two families of collections. An id of one family never names a collection of the
other. -/
inductive Family where
  | run
  | test
deriving Repr, DecidableEq, Inhabited

namespace Family

/-- The word for a family: what is done with its collections. -/
def name : Family → Text
  | .run => "execute".toList
  | .test => "test".toList

def mode : Family → Mode
  | .run => .run
  | .test => .test

end Family

/-! ## Ids -/

inductive CollectionId where
  | number (value : UInt64)
  | everyone
deriving Repr, DecidableEq, Inhabited

namespace CollectionId

def isPublic : CollectionId → Bool
  | .number _ => false
  | .everyone => true

/-- The text of an id, without leading zeros. -/
def text : CollectionId → Text
  | .number value => Text.ofNat value.toNat
  | .everyone => ['*']

/-- Reads an id: `*`, or decimal digits whose value fits in 64 bits. -/
def parse? (raw : Text) : Option CollectionId :=
  if raw = ['*'] then some .everyone
  else if Text.isDigits raw && Text.toNat raw < UInt64.size then
    some (.number (UInt64.ofNat (Text.toNat raw)))
  else none

/-- Whether a text has the form of a number but names none, being too large. -/
def isOutOfRange (raw : Text) : Bool :=
  Text.isDigits raw && UInt64.size ≤ Text.toNat raw

end CollectionId

end Weave

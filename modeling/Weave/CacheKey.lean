import Weave.Digest
import Weave.Request
import Weave.Text.Utf8

/-!
# Weave.CacheKey — names of requests

A cache knows a request by the beginning of its digest. The mode is part of what is digested: the
word for it and a zero byte stand before the source text, so that different requests give different
bytes.
-/

namespace Weave

/-- The name of a request in a cache. -/
structure CacheKey where
  text : Text
deriving Repr, DecidableEq, Inhabited

/-- The bytes that stand for a request. -/
def Request.bytes (request : Request) : ByteArray :=
  Text.encode request.mode.name ++ ByteArray.mk #[0] ++ Text.encode request.body

namespace CacheKey

/-- The number of digits of a key. -/
def length : Nat := 16

def ofRequest (request : Request) : CacheKey :=
  ⟨(Digest.hex (Digest.ofBytes request.bytes.toList)).take length⟩

end CacheKey

end Weave

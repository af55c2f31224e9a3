import Weave.Text.Utf8

/-!
# Weave.Text.Bytes — bytes as characters

Programs pass bytes on without asking for their encoding. Here a byte is the character with its
number, so that a sequence of bytes is a text whose characters are all below U+0100. `toBytes`
undoes `ofBytes` (`toBytes_ofBytes`); `widen` and `narrow` lead from ordinary texts to such texts
and back.
-/

namespace Weave.Text

/-- The characters that stand for bytes. -/
def ofBytes (bytes : ByteArray) : Text :=
  bytes.data.toList.map fun b => Char.ofNat b.toNat

/-- The bytes that characters stand for. -/
def toBytes (s : Text) : ByteArray :=
  ByteArray.mk (s.map fun c => UInt8.ofNat c.toNat).toArray

/-- The characters that stand for the bytes of a text. -/
def widen (s : Text) : Text :=
  ofBytes (encode s)

/-- The text whose bytes these characters stand for. -/
def narrow (s : Text) : Text :=
  decodeLossy (toBytes s)

theorem ofNat_toNat_byte (b : UInt8) : UInt8.ofNat (Char.ofNat b.toNat).toNat = b := by
  have h : b.toNat.isValidChar := .inl (Nat.lt_of_lt_of_le b.toNat_lt (by decide))
  rw [Char.ofNat, dif_pos h]
  exact UInt8.ofNat_toNat

/-- No byte is lost as a character. -/
@[simp] theorem toBytes_ofBytes (bytes : ByteArray) : toBytes (ofBytes bytes) = bytes := by
  simp [toBytes, ofBytes, Function.comp_def, ofNat_toNat_byte]

end Weave.Text

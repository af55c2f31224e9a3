import Weave.Text.Basic

/-!
# Weave.Text.Utf8 — texts as bytes

Files and process output are bytes. `encode` and `decode?` are the strict conversions, of which
the second undoes the first (`decode?_encode`). `decodeLossy` accepts every sequence of bytes and
puts the replacement character where bytes are malformed; `shown` does so only if some are.
-/

namespace Weave.Text

/-! ## Strict conversion -/

/-- The UTF-8 bytes of a text. -/
def encode (s : Text) : ByteArray :=
  (String.ofList s).toUTF8

/-- The text whose UTF-8 bytes these are, if they are well formed. -/
def decode? (bytes : ByteArray) : Option Text :=
  (String.fromUTF8? bytes).map String.toList

@[simp] theorem decode?_encode (s : Text) : decode? (encode s) = some s := by
  have valid : (String.ofList s).toUTF8.IsValidUTF8 := (String.ofList s).isValidUTF8
  have whole : String.fromUTF8? (String.ofList s).toUTF8 = some (String.ofList s) :=
    dif_pos valid
  rw [decode?, encode, whole, Option.map_some, String.toList_ofList]

theorem decode?_eq_some_iff {bytes : ByteArray} {s : Text} :
    decode? bytes = some s ↔ bytes = encode s := by
  constructor
  · intro h
    unfold decode? String.fromUTF8? at h
    split at h
    · next hvalid =>
      obtain rfl : (String.fromUTF8 bytes hvalid).toList = s := by simpa using h
      rw [encode, String.ofList_toList]
      rfl
    · simp at h
  · rintro rfl
    exact decode?_encode s

/-- Different texts have different bytes. -/
theorem encode_injective {s t : Text} (h : encode s = encode t) : s = t := by
  have := congrArg decode? h
  simpa using this

/-! ## Lossy conversion -/

/-- The replacement character, which stands for malformed bytes. -/
def replacement : Char :=
  '\ufffd'

/-- What the first byte of a sequence of two to four bytes announces: how many bytes follow,
between which bounds the next one lies, and the bits that it contributes itself. -/
structure Lead where
  following : Nat
  lowest : UInt8
  highest : UInt8
  bits : Nat

/-- The announcement of a byte, if it starts a sequence of several bytes. The bounds exclude
overlong forms, surrogates and values above U+10FFFF. -/
def Lead.of? (b : UInt8) : Option Lead :=
  if 0xc2 ≤ b && b ≤ 0xdf then some ⟨1, 0x80, 0xbf, b.toNat - 0xc0⟩
  else if b == 0xe0 then some ⟨2, 0xa0, 0xbf, 0⟩
  else if b == 0xed then some ⟨2, 0x80, 0x9f, 0xd⟩
  else if 0xe1 ≤ b && b ≤ 0xef then some ⟨2, 0x80, 0xbf, b.toNat - 0xe0⟩
  else if b == 0xf0 then some ⟨3, 0x90, 0xbf, 0⟩
  else if 0xf1 ≤ b && b ≤ 0xf3 then some ⟨3, 0x80, 0xbf, b.toNat - 0xf0⟩
  else if b == 0xf4 then some ⟨3, 0x80, 0x8f, 4⟩
  else none

/-- Reads the `following` bytes of a sequence. The first byte that does not fit ends it, and
what was read so far becomes one replacement character. -/
def readFollowing (following : Nat) (lowest highest : UInt8) (bits : Nat) :
    List UInt8 → Char × List UInt8
  | [] => (if following = 0 then Char.ofNat bits else replacement, [])
  | b :: rest =>
    match following with
    | 0 => (Char.ofNat bits, b :: rest)
    | n + 1 =>
      if lowest ≤ b && b ≤ highest then
        readFollowing n 0x80 0xbf (bits * 64 + (b.toNat - 0x80)) rest
      else (replacement, b :: rest)

theorem length_readFollowing_le (n : Nat) (lo hi : UInt8) (bits : Nat) (bs : List UInt8) :
    (readFollowing n lo hi bits bs).2.length ≤ bs.length := by
  induction bs generalizing n lo hi bits with
  | nil => simp [readFollowing]
  | cons b rest ih =>
    unfold readFollowing
    split
    · simp
    · split
      · exact Nat.le_succ_of_le (ih ..)
      · simp

/-- Reads one character after the byte `b`. -/
def readScalar (b : UInt8) (rest : List UInt8) : Char × List UInt8 :=
  if b < 0x80 then (Char.ofNat b.toNat, rest)
  else
    match Lead.of? b with
    | none => (replacement, rest)
    | some lead => readFollowing lead.following lead.lowest lead.highest lead.bits rest

theorem length_readScalar_le (b : UInt8) (rest : List UInt8) :
    (readScalar b rest).2.length ≤ rest.length := by
  unfold readScalar
  split
  · simp
  · split
    · simp
    · exact length_readFollowing_le ..

/-- The characters of a list of bytes; each maximal beginning of a sequence that breaks off
gives one replacement character. -/
def decodeBytes (bytes : List UInt8) : Text :=
  match bytes with
  | [] => []
  | b :: rest => (readScalar b rest).1 :: decodeBytes (readScalar b rest).2
termination_by bytes.length
decreasing_by exact Nat.lt_succ_of_le (length_readScalar_le b rest)

/-- The text of any sequence of bytes. -/
def decodeLossy (bytes : ByteArray) : Text :=
  decodeBytes bytes.toList

/-- The text that is shown for bytes. It is only where they are malformed that it has replacement
characters. -/
def shown (bytes : ByteArray) : Text :=
  (decode? bytes).getD (decodeLossy bytes)

@[simp] theorem shown_encode (s : Text) : shown (encode s) = s := by
  rw [shown, decode?_encode, Option.getD_some]

end Weave.Text

/-!
# Weave.Digest — SHA-256

The digest of a sequence of bytes as eight words of 32 bits: the message is padded to whole blocks
of 64 bytes, and each block is compressed into the chaining state.
-/

namespace Weave

/-- A digest, which is also the chaining state. -/
abbrev Digest : Type :=
  Vector UInt32 8

namespace Digest

/-! ## Constants -/

/-- The state before the first block: fractional parts of the square roots of the first eight
primes. -/
def initial : Digest :=
  #v[0x6a09e667, 0xbb67ae85, 0x3c6ef372, 0xa54ff53a, 0x510e527f, 0x9b05688c, 0x1f83d9ab,
     0x5be0cd19]

/-- The constants of the 64 rounds: fractional parts of the cube roots of the first 64 primes. -/
def roundConstants : Vector UInt32 64 :=
  #v[0x428a2f98, 0x71374491, 0xb5c0fbcf, 0xe9b5dba5, 0x3956c25b, 0x59f111f1, 0x923f82a4,
     0xab1c5ed5, 0xd807aa98, 0x12835b01, 0x243185be, 0x550c7dc3, 0x72be5d74, 0x80deb1fe,
     0x9bdc06a7, 0xc19bf174, 0xe49b69c1, 0xefbe4786, 0x0fc19dc6, 0x240ca1cc, 0x2de92c6f,
     0x4a7484aa, 0x5cb0a9dc, 0x76f988da, 0x983e5152, 0xa831c66d, 0xb00327c8, 0xbf597fc7,
     0xc6e00bf3, 0xd5a79147, 0x06ca6351, 0x14292967, 0x27b70a85, 0x2e1b2138, 0x4d2c6dfc,
     0x53380d13, 0x650a7354, 0x766a0abb, 0x81c2c92e, 0x92722c85, 0xa2bfe8a1, 0xa81a664b,
     0xc24b8b70, 0xc76c51a3, 0xd192e819, 0xd6990624, 0xf40e3585, 0x106aa070, 0x19a4c116,
     0x1e376c08, 0x2748774c, 0x34b0bcb5, 0x391c0cb3, 0x4ed8aa4a, 0x5b9cca4f, 0x682e6ff3,
     0x748f82ee, 0x78a5636f, 0x84c87814, 0x8cc70208, 0x90befffa, 0xa4506ceb, 0xbef9a3f7,
     0xc67178f2]

/-! ## Padding -/

/-- The bytes of a number, most significant first. -/
def bytesOf (count n : Nat) : List UInt8 :=
  (List.range count).map fun i => UInt8.ofNat (n / Nat.pow 256 (count - 1 - i))

/-- The number of zero bytes between the end of a message of `n` bytes with its end mark and the
eight bytes of the length. -/
def zerosAfter (n : Nat) : Nat :=
  (64 - (n + 9) % 64) % 64

/-- The message with its end mark, zeros, and its length in bits. -/
def pad (message : List UInt8) : List UInt8 :=
  message ++ 0x80 :: (List.replicate (zerosAfter message.length) 0
    ++ bytesOf 8 (8 * message.length))

/-! ## Compression -/

/-- A word with its bits rotated to the right. -/
def rotate (x : UInt32) (n : UInt32) : UInt32 :=
  (x >>> n) ||| (x <<< (32 - n))

/-- Four bytes as a word, most significant first. -/
def word : List UInt8 → UInt32
  | bytes => bytes.foldl (fun w b => (w <<< 8) ||| b.toUInt32) 0

def blockWords (block : List UInt8) : Array UInt32 :=
  (Array.range 16).map fun i => word ((block.drop (4 * i)).take 4)

/-- The words for all rounds: each after the first sixteen comes from four earlier ones. -/
def schedule (block : List UInt8) : Array UInt32 :=
  (List.range 48).foldl (fun w i =>
    let a := w.getD (i + 1) 0
    let b := w.getD (i + 14) 0
    let s0 := rotate a 7 ^^^ rotate a 18 ^^^ (a >>> 3)
    let s1 := rotate b 17 ^^^ rotate b 19 ^^^ (b >>> 10)
    w.push (w.getD i 0 + s0 + w.getD (i + 9) 0 + s1)) (blockWords block)

/-- One round, with the sum of its constant and its word. -/
def round (s : Digest) (kw : UInt32) : Digest :=
  let a := s[0]
  let e := s[4]
  let s1 := rotate e 6 ^^^ rotate e 11 ^^^ rotate e 25
  let choice := (e &&& s[5]) ^^^ (~~~e &&& s[6])
  let t1 := s[7] + s1 + choice + kw
  let s0 := rotate a 2 ^^^ rotate a 13 ^^^ rotate a 22
  let majority := (a &&& s[1]) ^^^ (a &&& s[2]) ^^^ (s[1] &&& s[2])
  #v[t1 + s0 + majority, a, s[1], s[2], s[3] + t1, e, s[5], s[6]]

/-- The state after one more block. -/
def compress (s : Digest) (block : List UInt8) : Digest :=
  let w := schedule block
  let last := (List.finRange 64).foldl
    (fun t (i : Fin 64) => round t (roundConstants[i] + w.getD i 0)) s
  s.zipWith (· + ·) last

/-- The state after all blocks of a padded message. -/
def compressAll (s : Digest) (bytes : List UInt8) : Digest :=
  if (bytes.drop 63).isEmpty then s
  else compressAll (compress s (bytes.take 64)) (bytes.drop 64)
termination_by bytes.length
decreasing_by
  rename_i h
  simp only [List.isEmpty_iff, List.drop_eq_nil_iff] at h
  simp only [List.length_drop]
  omega

def ofBytes (message : List UInt8) : Digest :=
  compressAll initial (pad message)

/-! ## Hexadecimal digits -/

def hexDigit (n : Nat) : Char :=
  "0123456789abcdef".toList.getD n '0'

/-- The eight hexadecimal digits of a word. -/
def hexWord (w : UInt32) : List Char :=
  (List.range 8).map fun i => hexDigit (w.toNat / Nat.pow 16 (7 - i) % 16)

def hex (d : Digest) : List Char :=
  d.toList.flatMap hexWord

end Digest

end Weave

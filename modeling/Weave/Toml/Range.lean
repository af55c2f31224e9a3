import Weave.Toml.Literal

/-!
# Weave.Toml.Range — numbers that are too large

Numbers can be written with any number of digits, but a number that is read has to fit: an integer
into 128 bits, a number with a point or an exponent into the range of those with 64 bits. A value
that nothing reads, not even to ignore it, need not fit.
-/

namespace Weave.Toml

/-! ## Decimal numbers -/

/-- The digits and the exponent of a decimal number without a sign: it is the number of the digits
times ten to the exponent. -/
def decimal (literal : Text) : Nat × Int :=
  let plain := literal.filter (· ≠ '_')
  let isE := fun c : Char => c = 'e' || c = 'E'
  let mantissa := plain.takeWhile fun c => !isE c
  let (negative, digits) := splitSign (plain.drop (mantissa.length + 1))
  let exponent : Int := Text.toNat digits
  let fraction := (mantissa.dropWhile (· ≠ '.')).drop 1
  (Text.toNat (mantissa.filter (· ≠ '.')),
    (if negative then -exponent else exponent) - fraction.length)

/-- The least number that is rounded to infinity: halfway between the largest number with 64 bits
and the power of two after it. -/
def floatBound : Nat :=
  Nat.pow 2 1024 - Nat.pow 2 970

/-- Whether digits times a power of ten stay below the bound. Far from it the number of digits
decides, so that no large power has to be computed. -/
def isBelowBound (digits : Nat) (exponent : Int) : Bool :=
  let size : Int := (Text.ofNat digits).length + exponent
  if digits = 0 || size < 300 then true
  else if 400 < size then false
  else if 0 ≤ exponent then digits * Nat.pow 10 exponent.toNat < floatBound
  else digits < floatBound * Nat.pow 10 (-exponent).toNat

/-- Whether a literal with a point or an exponent, or one of the special numbers, is in range. -/
def isFiniteFloat (literal : Text) : Bool :=
  let (_, s) := splitSign literal
  if s = "inf".toList || s = "nan".toList then true
  else
    let (digits, exponent) := decimal s
    isBelowBound digits exponent

/-! ## Values -/

/-- Whether an integer fits into 128 bits, with or without a sign. -/
def isKept (n : Int) : Bool :=
  -Int.ofNat (Nat.pow 2 127) ≤ n && n < Int.ofNat (Nat.pow 2 128)

mutual

/-- Whether all numbers in a value are in range. -/
def Value.inRange : Value → Bool
  | .int n => isKept n
  | .float literal => isFiniteFloat literal
  | .array _ items => itemsInRange items
  | .table _ entries => entriesInRange entries
  | _ => true

def itemsInRange : List Value → Bool
  | [] => true
  | v :: vs => v.inRange && itemsInRange vs

def entriesInRange : List (Text × Value) → Bool
  | [] => true
  | (_, v) :: rest => v.inRange && entriesInRange rest

end

end Weave.Toml

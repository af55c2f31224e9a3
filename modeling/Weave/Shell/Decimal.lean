import Weave.Shell.Arithmetic

/-!
# Weave.Shell.Decimal — decimal forms of fractions

Numbers with a binary exponent are fractions, and their decimal forms are found with whole numbers
only. A half goes to the even neighbour.
-/

namespace Weave.Shell

/-- A fraction that is not negative. -/
structure Fraction where
  numerator : Nat
  denominator : Nat
deriving Repr, DecidableEq, Inhabited

namespace Fraction

def timesTen (q : Fraction) (power : Int) : Fraction :=
  if power < 0 then { q with denominator := q.denominator * Nat.pow 10 power.natAbs }
  else { q with numerator := q.numerator * Nat.pow 10 power.natAbs }

/-- The nearest whole number. -/
def round (q : Fraction) : Nat :=
  let whole := q.numerator / q.denominator
  let twice := 2 * (q.numerator % q.denominator)
  if q.denominator < twice || (twice = q.denominator && whole % 2 = 1) then whole + 1 else whole

/-- The power of ten with which the decimal form begins; 0 for zero. -/
def magnitude (q : Fraction) : Int :=
  if q.numerator = 0 then 0
  else if q.denominator ≤ q.numerator then
    (Text.ofNat (q.numerator / q.denominator)).length - 1
  else
    let shifts := List.range ((Text.ofNat (q.denominator / q.numerator)).length + 1)
    let shift := (shifts.find? fun k => q.denominator ≤ q.numerator * Nat.pow 10 k).getD 0
    Int.negOfNat shift

end Fraction

/-- The absolute value of a number with a binary exponent. Nothing if it is not finite. -/
def fraction? (x : Float) : Option Fraction :=
  let bits := x.toBits.toNat
  let unit := Nat.pow 2 52
  let exponent := bits / unit % 2048
  let digits := bits % unit
  if exponent = 2047 then none
  else
    let digits := if exponent = 0 then digits else digits + unit
    let power := max exponent 1
    some (if power < 1075 then ⟨digits, Nat.pow 2 (1075 - power)⟩
      else ⟨digits * Nat.pow 2 (power - 1075), 1⟩)

/-! ## Forms -/

/-- The digits of a whole number, filled with zeros in front up to a width. -/
def zeroFilled (width n : Nat) : Text :=
  let digits := Text.ofNat n
  List.replicate (width - digits.length) '0' ++ digits

/-- Digits with a point before the last `places`. Without places there is a point only if it is
asked for. -/
def withPoint (digits : Text) (places : Nat) (always : Bool) : Text :=
  let whole := digits.take (digits.length - places)
  if places = 0 && !always then whole else whole ++ '.' :: digits.drop (digits.length - places)

/-- The form with so many places after the point. -/
def fixedForm (q : Fraction) (places : Nat) (always : Bool) : Text :=
  withPoint (zeroFilled (places + 1) (q.timesTen places).round) places always

/-- The digits of a fraction, so many after the first one, and the power of ten that they begin
with. -/
def leadingDigits (q : Fraction) (places : Nat) : Nat × Int :=
  let power := q.magnitude
  let digits := (q.timesTen (places - power)).round
  if digits = Nat.pow 10 (places + 1) then (Nat.pow 10 places, power + 1) else (digits, power)

/-- The exponent after the digits of a form. -/
def exponentText (power : Int) : Text :=
  'e' :: (if power < 0 then '-' else '+') :: zeroFilled 2 power.natAbs

/-- The form with one digit before the point and an exponent. -/
def scientificForm (q : Fraction) (places : Nat) (always : Bool) : Text :=
  let (digits, power) := leadingDigits q places
  withPoint (zeroFilled (places + 1) digits) places always ++ exponentText power

/-- A form without the zeros at its end, and without a point that nothing follows. -/
def withoutZeros (s : Text) : Text :=
  if s.contains '.' then Text.stripLast '.' (Text.trimEndWhere (· = '0') s) else s

/-- The shorter of the two forms with so many digits. Zeros at the end are only kept if they are
asked for. -/
def generalForm (q : Fraction) (digits : Nat) (always : Bool) : Text :=
  let digits := max digits 1
  let (leading, power) := leadingDigits q (digits - 1)
  let tidy := fun s => if always then s else withoutZeros s
  if -4 ≤ power && power < digits then
    tidy (fixedForm q (digits - 1 - power).toNat always)
  else
    tidy (withPoint (zeroFilled digits leading) (digits - 1) always) ++ exponentText power

/-! ## Reading -/

/-- The number at the start of a text, its sign, and what follows. Nothing if there is none. -/
def splitFraction? (s : Text) : Option (Bool × Float × Text) :=
  let s := s.dropWhile isSpace
  let (negative, s) := match s with
    | '-' :: rest => (true, rest)
    | '+' :: rest => (false, rest)
    | rest => (false, rest)
  let whole := s.takeWhile Char.isDigit
  let s := s.drop whole.length
  let places := match s with
    | '.' :: rest => rest.takeWhile Char.isDigit
    | _ => []
  if whole.isEmpty && places.isEmpty then none
  else
    let s := match s with
      | '.' :: rest => rest.drop places.length
      | rest => rest
    let (power, s) := match s with
      | 'e' :: rest | 'E' :: rest =>
        let digits := match rest with
          | '-' :: rest | '+' :: rest => rest.takeWhile Char.isDigit
          | rest => rest.takeWhile Char.isDigit
        let signed := rest.head? = some '-' || rest.head? = some '+'
        -- a letter without digits behind it belongs to what follows
        if digits.isEmpty then ((0 : Int), s)
        else
          let power : Int := Text.toNat digits
          (if rest.head? = some '-' then -power else power,
            rest.drop (digits.length + if signed then 1 else 0))
      | rest => (0, rest)
    let power := power - places.length
    some (negative, Float.ofScientific (Text.toNat (whole ++ places)) (power < 0) power.natAbs, s)

end Weave.Shell

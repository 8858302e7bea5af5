import Segmentation.Number.Binary64
import Segmentation.Text.Basic

/-!
# Shortest decimals

The text of a double-precision number: the fewest digits that read back as the same number and,
among decimals of that length, the nearest; of two that are equally near, the one whose last digit
is even. Magnitudes from 10⁻⁴ up to 10¹⁶ are written positionally and always with a fraction, others
with an exponent of at least two digits.
-/

namespace Segmentation.Binary64

/-- The number of decimal digits of a positive natural number. -/
def digitCount (number : Nat) : Nat :=
  (Nat.toDigits 10 number).length

/-- The quotient times a power of ten, as a quotient. -/
def timesPowerOfTen (numerator denominator : Nat) (power : Int) : Nat × Nat :=
  if power < 0 then (numerator, denominator * Nat.pow 10 power.natAbs)
  else (numerator * Nat.pow 10 power.natAbs, denominator)

/-- The power of ten at which a positive quotient has its first digit, counted so that 1 has the
power 1: the quotient is below that power of ten and not below the one before it. -/
def leadingPower (numerator denominator : Nat) : Int :=
  let guess := (digitCount numerator : Int) - digitCount denominator
  let (scaled, divisor) := timesPowerOfTen numerator denominator (-guess)
  if scaled < divisor then guess else guess + 1

/-- Whether `digits * 10 ^ power` reads as the finite number with the given mantissa and
exponent. -/
def readsAs (mantissa : Nat) (exponent : Int) (digits : Nat) (power : Int) : Bool :=
  let (numerator, denominator) := timesPowerOfTen digits 1 power
  match ofQuotient false numerator denominator with
  | finite _ mantissa' exponent' =>
      let (left, below) := toQuotient mantissa exponent
      let (left', below') := toQuotient mantissa' exponent'
      left * below' == left' * below
  | _ => false

/-- The decimal of `count` digits that is nearest to a positive number, if one of its two neighbours
of that length reads back as the number. -/
def decimalOfLength? (mantissa : Nat) (exponent : Int) (count : Nat) : Option (Nat × Int) :=
  let (numerator, denominator) := toQuotient mantissa exponent
  let power := leadingPower numerator denominator - count
  let (scaled, divisor) := timesPowerOfTen numerator denominator (-power)
  let low := scaled / divisor
  let fits (digits : Nat) := readsAs mantissa exponent digits power
  let twice := 2 * (scaled % divisor)
  let lowFirst := twice < divisor || (twice == divisor && low % 2 == 0)
  let nearest := if lowFirst then [low, low + 1] else [low + 1, low]
  (nearest.find? fits).map (·, power)

/-- The shortest decimal of a positive number as digits and a power of ten. Seventeen digits always
suffice. -/
def shortestFrom (mantissa : Nat) (exponent : Int) (count : Nat) : Nat → Nat × Int
  | 0 => (decimalOfLength? mantissa exponent 17).getD (0, 0)
  | more + 1 =>
      match decimalOfLength? mantissa exponent count with
      | some decimal => decimal
      | none => shortestFrom mantissa exponent (count + 1) more

/-- The digits of a positive number without trailing zeros, and the power of ten of the first digit,
counted so that 1 has the power 1. -/
def shortestDigits (mantissa : Nat) (exponent : Int) : Text × Int :=
  let (digits, power) := shortestFrom mantissa exponent 1 16
  let text := Text.ofNat digits
  ((text.reverse.dropWhile (· == '0')).reverse, power + text.length)

/-- The text of a magnitude from its digits and its power. -/
def writeDigits (digits : Text) (power : Int) : Text :=
  if -4 < power ∧ power ≤ 16 then
    if power ≤ 0 then "0.".toList ++ List.replicate power.natAbs '0' ++ digits
    else
      let whole := digits.take power.toNat
      let zeros := List.replicate (power.toNat - digits.length) '0'
      let fraction := digits.drop power.toNat
      whole ++ zeros ++ '.' :: (if fraction.isEmpty then ['0'] else fraction)
  else
    let fraction := digits.drop 1
    let exponent := (power - 1).natAbs
    digits.take 1 ++ (if fraction.isEmpty then [] else '.' :: fraction) ++
      ['e', if power ≤ 0 then '-' else '+'] ++
      (if exponent < 10 then '0' :: Text.ofNat exponent else Text.ofNat exponent)

/-- The text of a number. -/
def text : Binary64 → Text
  | nan => "nan".toList
  | infinite negative => if negative then "-inf".toList else "inf".toList
  | finite negative mantissa exponent =>
      let magnitude :=
        if mantissa = 0 then "0.0".toList
        else
          let (digits, power) := shortestDigits mantissa exponent
          writeDigits digits power
      if negative then '-' :: magnitude else magnitude

end Segmentation.Binary64

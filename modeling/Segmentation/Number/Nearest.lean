import Segmentation.Number.Shortest

/-!
# Nearest doubles

Decimals are read as the double-precision number that is nearest to them. Those that are far outside
of the format are not computed: they are zero or infinite.
-/

namespace Segmentation.Binary64

/-- The number nearest to `mantissa * 10 ^ power`. -/
def ofDecimal (negative : Bool) (mantissa : Nat) (power : Int) : Binary64 :=
  let size := (digitCount mantissa : Int) + power
  if mantissa = 0 || size < -330 then finite negative 0 leastExponent
  else if 310 < size then infinite negative
  else
    let (numerator, denominator) := timesPowerOfTen mantissa 1 power
    ofQuotient negative numerator denominator

/-- The integer that a number is, if it is one. -/
def integer? : Binary64 → Option Int
  | finite negative mantissa exponent =>
      let (numerator, denominator) := toQuotient mantissa exponent
      if numerator % denominator = 0 then
        let magnitude : Int := (numerator / denominator : Nat)
        some (if negative then -magnitude else magnitude)
      else none
  | _ => none

end Segmentation.Binary64

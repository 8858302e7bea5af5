/-!
# Double-precision numbers

The binary format with 53 significant bits, computed in exact integer arithmetic. A finite number is
a sign, a whole number of units and the power of two that one unit is worth. Rounding goes to the
nearest number of the format and, between two equally near ones, to the one with an even mantissa.
-/

namespace Segmentation

/-- A double-precision number. -/
inductive Binary64 where
  | finite (negative : Bool) (mantissa : Nat) (exponent : Int)
  | infinite (negative : Bool)
  | nan
  deriving DecidableEq, Repr

namespace Binary64

/-- The number of significant bits. -/
def precision : Nat := 53

/-- The exponent of the smallest unit. -/
def leastExponent : Int := -1074

/-- Every finite number is below this power of two. -/
def overflowExponent : Nat := 1024

/-- The quotient and the remainder when `numerator / denominator` is measured in units of
`2 ^ exponent`; the remainder comes with the scaled denominator. -/
def unitsOf (numerator denominator : Nat) (exponent : Int) : Nat × Nat × Nat :=
  let scaled := if exponent < 0 then numerator * Nat.pow 2 exponent.natAbs else numerator
  let divisor := if exponent < 0 then denominator else denominator * Nat.pow 2 exponent.natAbs
  (scaled / divisor, scaled % divisor, divisor)

/-- The exponent of the units in which a positive quotient has the full precision. It is read off
the lengths of the two numbers, which leaves it undecided by one. -/
def unitExponent (numerator denominator : Nat) : Int :=
  let guess := max leastExponent ((numerator.log2 : Int) - denominator.log2 - precision)
  if (unitsOf numerator denominator guess).1 < Nat.pow 2 precision then guess else guess + 1

/-- The number nearest to a quotient of natural numbers, ties to even. -/
def ofQuotient (negative : Bool) (numerator denominator : Nat) : Binary64 :=
  if numerator = 0 then finite negative 0 leastExponent
  else
    let exponent := unitExponent numerator denominator
    let (units, remainder, divisor) := unitsOf numerator denominator exponent
    let mantissa :=
      if divisor < 2 * remainder ∨ (2 * remainder = divisor ∧ units % 2 = 1) then units + 1
      else units
    if mantissa * Nat.pow 2 exponent.toNat < Nat.pow 2 overflowExponent then
      finite negative mantissa exponent
    else infinite negative

/-- The number nearest to an integer. -/
def ofInt (number : Int) : Binary64 :=
  ofQuotient (number < 0) number.natAbs 1

/-- The exact value of a finite magnitude as a quotient of natural numbers. -/
def toQuotient (mantissa : Nat) (exponent : Int) : Nat × Nat :=
  if exponent < 0 then (mantissa, Nat.pow 2 exponent.natAbs)
  else (mantissa * Nat.pow 2 exponent.natAbs, 1)

/-- Whether the number is zero, of either sign. -/
def isZero : Binary64 → Bool
  | finite _ mantissa _ => mantissa == 0
  | _ => false

/-- Division, rounded. Only finite numbers with a divisor other than zero have a finite quotient. -/
def div : Binary64 → Binary64 → Binary64
  | finite negative mantissa exponent, finite negative' mantissa' exponent' =>
      if mantissa' = 0 then nan
      else
        let (numerator, denominator) := toQuotient mantissa exponent
        let (numerator', denominator') := toQuotient mantissa' exponent'
        ofQuotient (negative != negative') (numerator * denominator') (denominator * numerator')
  | finite negative _ _, infinite negative' => finite (negative != negative') 0 leastExponent
  | infinite negative, finite negative' _ _ => infinite (negative != negative')
  | _, _ => nan

/-- The whole part of a finite number, toward zero. -/
def truncate? : Binary64 → Option Int
  | finite negative mantissa exponent =>
      let (numerator, denominator) := toQuotient mantissa exponent
      let magnitude := numerator / denominator
      some (if negative then -(magnitude : Int) else magnitude)
  | _ => none

end Binary64

end Segmentation

import Mathlib.Algebra.Order.Field.Power
import Mathlib.Data.Nat.Cast.Order.Field
import Mathlib.Tactic.FieldSimp
import Mathlib.Tactic.Linarith
import Mathlib.Tactic.Positivity
import Mathlib.Tactic.Ring
import Segmentation.Split

/-!
# Rounded quotients

A rounded quotient is the whole number of units in it, or one more. The unit is chosen so that this
number has the full precision, so a rounded quotient lies within a factor of two of the exact one.
That is all that the cutting of chunks needs: for sizes of texts the numbers of lines are finite.
-/

namespace Segmentation

namespace Binary64

/-- What a finite number without its sign is worth. -/
def magnitude (mantissa : Nat) (exponent : Int) : ℚ :=
  mantissa * 2 ^ exponent

theorem magnitude_le_magnitude {left right : Nat} (ordered : left ≤ right) (exponent : Int) :
    magnitude left exponent ≤ magnitude right exponent := by
  unfold magnitude
  have : (left : ℚ) ≤ right := by exact_mod_cast ordered
  gcongr

theorem lt_of_magnitude_lt {left right : Nat} (exponent : Int)
    (less : magnitude left exponent < magnitude right exponent) : left < right := by
  by_contra notLess
  have := magnitude_le_magnitude (Nat.not_lt.1 notLess) exponent
  linarith

theorem magnitude_succ_le {mantissa : Nat} (positive : 0 < mantissa) (exponent : Int) :
    magnitude (mantissa + 1) exponent ≤ 2 * magnitude mantissa exponent := by
  unfold magnitude
  have unit : (0 : ℚ) < 2 ^ exponent := by positivity
  have : (1 : ℚ) ≤ mantissa := by exact_mod_cast positive
  push_cast
  nlinarith

theorem magnitude_two_pow (power : Nat) (exponent : Int) :
    magnitude (2 ^ power) exponent = 2 ^ (exponent + power) := by
  unfold magnitude
  rw [zpow_add₀ two_ne_zero, zpow_natCast]
  push_cast
  ring

theorem toQuotient_eq (mantissa : Nat) (exponent : Int) :
    ((toQuotient mantissa exponent).1 : ℚ) / (toQuotient mantissa exponent).2 =
      magnitude mantissa exponent := by
  unfold toQuotient magnitude
  split
  · next negative =>
      obtain ⟨power, rfl⟩ : ∃ power : Nat, exponent = -(power : Int) :=
        ⟨exponent.natAbs, by omega⟩
      simp [zpow_neg, div_eq_mul_inv]
  · next nonneg =>
      obtain ⟨power, rfl⟩ := Int.eq_ofNat_of_zero_le (Int.not_lt.1 nonneg)
      simp

theorem toQuotient_snd_pos (mantissa : Nat) (exponent : Int) :
    0 < (toQuotient mantissa exponent).2 := by
  unfold toQuotient
  split
  · exact Nat.two_pow_pos _
  · exact Nat.one_pos

/-! ## Units -/

private theorem div_bounds {scaled divisor : Nat} {quotient : ℚ} {exponent : Int}
    (positive : 0 < divisor) (scaling : (scaled : ℚ) / divisor * 2 ^ exponent = quotient) :
    magnitude (scaled / divisor) exponent ≤ quotient ∧
      quotient < magnitude (scaled / divisor + 1) exponent := by
  have unit : (0 : ℚ) < 2 ^ exponent := by positivity
  have divisor_pos : (0 : ℚ) < divisor := by exact_mod_cast positive
  rw [← scaling, magnitude, magnitude]
  constructor
  · exact mul_le_mul_of_nonneg_right Nat.cast_div_le unit.le
  · refine mul_lt_mul_of_pos_right ?_ unit
    rw [div_lt_iff₀ divisor_pos]
    have := Nat.lt_mul_div_succ scaled positive
    rw [Nat.mul_comm] at this
    exact_mod_cast this

/-- A quotient lies between its whole number of units and one unit more. -/
theorem unitsOf_bounds (numerator : Nat) {denominator : Nat} (positive : 0 < denominator)
    (exponent : Int) :
    magnitude (unitsOf numerator denominator exponent).1 exponent ≤
        (numerator : ℚ) / denominator ∧
      (numerator : ℚ) / denominator <
        magnitude ((unitsOf numerator denominator exponent).1 + 1) exponent := by
  have denominator_pos : (0 : ℚ) < denominator := by exact_mod_cast positive
  rcases lt_or_ge exponent 0 with negative | nonneg
  · obtain ⟨power, rfl⟩ : ∃ power : Nat, exponent = -(power : Int) :=
      ⟨exponent.natAbs, by omega⟩
    simp only [unitsOf, if_pos negative, Int.natAbs_neg, Int.natAbs_natCast, Nat.pow_eq]
    apply div_bounds positive
    push_cast
    rw [zpow_neg, zpow_natCast]
    field_simp
  · obtain ⟨power, rfl⟩ := Int.eq_ofNat_of_zero_le nonneg
    simp only [unitsOf, if_neg (not_lt.2 nonneg), Int.natAbs_natCast, Nat.pow_eq]
    apply div_bounds (Nat.mul_pos positive (Nat.two_pow_pos power))
    push_cast
    rw [zpow_natCast]
    field_simp

/-- A positive quotient lies between the powers of two that the lengths of its numbers give. -/
theorem quotient_bounds {numerator denominator : Nat} (numerator_pos : 0 < numerator)
    (denominator_pos : 0 < denominator) :
    (2 : ℚ) ^ ((numerator.log2 : Int) - denominator.log2 - 1) < (numerator : ℚ) / denominator ∧
      (numerator : ℚ) / denominator < 2 ^ ((numerator.log2 : Int) - denominator.log2 + 1) := by
  have positive : (0 : ℚ) < denominator := by exact_mod_cast denominator_pos
  have numerator_low : (2 : ℚ) ^ numerator.log2 ≤ numerator := by
    exact_mod_cast Nat.log2_self_le numerator_pos.ne'
  have numerator_high : (numerator : ℚ) < 2 ^ (numerator.log2 + 1) := by
    exact_mod_cast Nat.lt_log2_self
  have denominator_low : (2 : ℚ) ^ denominator.log2 ≤ denominator := by
    exact_mod_cast Nat.log2_self_le denominator_pos.ne'
  have denominator_high : (denominator : ℚ) < 2 ^ (denominator.log2 + 1) := by
    exact_mod_cast Nat.lt_log2_self
  have low_eq : (2 : ℚ) ^ ((numerator.log2 : Int) - denominator.log2 - 1) =
      2 ^ numerator.log2 / 2 ^ (denominator.log2 + 1) := by
    rw [sub_sub, zpow_sub₀ two_ne_zero, zpow_natCast]
    norm_cast
  have high_eq : (2 : ℚ) ^ ((numerator.log2 : Int) - denominator.log2 + 1) =
      2 ^ (numerator.log2 + 1) / 2 ^ denominator.log2 := by
    rw [show (numerator.log2 : Int) - denominator.log2 + 1 =
      (numerator.log2 + 1 : Nat) - denominator.log2 by push_cast; ring, zpow_sub₀ two_ne_zero]
    norm_cast
  rw [low_eq, high_eq]
  constructor
  · calc (2 : ℚ) ^ numerator.log2 / 2 ^ (denominator.log2 + 1)
        < 2 ^ numerator.log2 / denominator := by gcongr
      _ ≤ numerator / denominator := by gcongr
  · calc (numerator : ℚ) / denominator
        < 2 ^ (numerator.log2 + 1) / denominator := by gcongr
      _ ≤ 2 ^ (numerator.log2 + 1) / 2 ^ denominator.log2 := by gcongr

theorem guess_le_unitExponent (numerator denominator : Nat) :
    max leastExponent ((numerator.log2 : Int) - denominator.log2 - precision) ≤
      unitExponent numerator denominator := by
  unfold unitExponent
  dsimp only
  split <;> omega

/-- The units of a positive quotient are small enough to give no more than the full precision, and
give all of it unless the units are the smallest ones. -/
theorem unitExponent_bounds {numerator denominator : Nat} (numerator_pos : 0 < numerator)
    (denominator_pos : 0 < denominator) :
    (unitsOf numerator denominator (unitExponent numerator denominator)).1 < 2 ^ precision ∧
      (leastExponent < unitExponent numerator denominator →
        2 ^ (precision - 1) ≤
          (unitsOf numerator denominator (unitExponent numerator denominator)).1) := by
  obtain ⟨above, below⟩ := quotient_bounds numerator_pos denominator_pos
  obtain ⟨guess, guessed⟩ : ∃ guess, guess =
      max leastExponent ((numerator.log2 : Int) - denominator.log2 - precision) := ⟨_, rfl⟩
  have atLeast : leastExponent ≤ guess := by omega
  have notBelow : (numerator.log2 : Int) - denominator.log2 - precision ≤ guess := by omega
  -- a unit of any exponent from the guess on is too large to fit 2 ^ 54 times into the quotient
  have few (exponent : Int) (power : Nat)
      (large : (numerator.log2 : Int) - denominator.log2 + 1 ≤ exponent + power) :
      (unitsOf numerator denominator exponent).1 < 2 ^ power := by
    apply lt_of_magnitude_lt exponent
    rw [magnitude_two_pow]
    calc magnitude (unitsOf numerator denominator exponent).1 exponent
        ≤ numerator / denominator := (unitsOf_bounds numerator denominator_pos exponent).1
      _ < 2 ^ ((numerator.log2 : Int) - denominator.log2 + 1) := below
      _ ≤ 2 ^ (exponent + power) := zpow_le_zpow_right₀ one_le_two large
  have many (exponent : Int) (power : Nat)
      (small : (2 : ℚ) ^ (exponent + power) ≤ (numerator : ℚ) / denominator) :
      2 ^ power ≤ (unitsOf numerator denominator exponent).1 := by
    apply Nat.le_of_lt_succ
    apply lt_of_magnitude_lt exponent
    rw [magnitude_two_pow]
    exact lt_of_le_of_lt small (unitsOf_bounds numerator denominator_pos exponent).2
  simp only [unitExponent, ← guessed, Nat.pow_eq]
  split
  · next small =>
      refine ⟨small, fun larger => many guess _ (le_of_lt (lt_of_le_of_lt ?_ above))⟩
      apply zpow_le_zpow_right₀ one_le_two
      simp only [precision] at guessed ⊢
      omega
  · next large =>
      refine ⟨few (guess + 1) precision (by omega), fun _ => many (guess + 1) _ ?_⟩
      have reached := magnitude_le_magnitude (Nat.not_lt.1 large) guess
      rw [magnitude_two_pow] at reached
      rw [show guess + 1 + ((precision - 1 : Nat) : Int) = guess + precision by
        simp only [precision]; omega]
      exact reached.trans (unitsOf_bounds numerator denominator_pos guess).1

/-! ## Rounding -/

/-- A positive quotient is rounded to its whole number of units or to one more. -/
theorem ofQuotient_cases (negative : Bool) {numerator : Nat} (denominator : Nat)
    (numerator_pos : 0 < numerator) :
    ∃ mantissa exponent, exponent = unitExponent numerator denominator ∧
      (unitsOf numerator denominator exponent).1 ≤ mantissa ∧
      mantissa ≤ (unitsOf numerator denominator exponent).1 + 1 ∧
      ofQuotient negative numerator denominator =
        if mantissa * Nat.pow 2 exponent.toNat < Nat.pow 2 overflowExponent then
          finite negative mantissa exponent
        else infinite negative := by
  refine ⟨_, _, rfl, ?_, ?_, by rw [ofQuotient, if_neg numerator_pos.ne']⟩
  · split <;> omega
  · split <;> omega

/-- A rounded quotient is finite when the exact one is far from the end of the range. -/
theorem ofQuotient_finite (negative : Bool) {numerator denominator : Nat}
    (denominator_pos : 0 < denominator) (small : (numerator : ℚ) / denominator < 2 ^ 200) :
    ∃ mantissa exponent,
      ofQuotient negative numerator denominator = finite negative mantissa exponent := by
  rcases Nat.eq_zero_or_pos numerator with zero | numerator_pos
  · exact ⟨0, leastExponent, by rw [ofQuotient, if_pos zero]⟩
  · obtain ⟨mantissa, exponent, chosen, -, high, equal⟩ :=
      ofQuotient_cases negative denominator numerator_pos
    obtain ⟨few, full⟩ := unitExponent_bounds numerator_pos denominator_pos
    rw [← chosen] at few full
    refine ⟨mantissa, exponent, ?_⟩
    rw [equal, if_pos]
    rw [Nat.pow_eq, Nat.pow_eq]
    rcases le_or_gt exponent 0 with fractional | whole
    · rw [Int.toNat_eq_zero.2 fractional, pow_zero, mul_one]
      have fits : mantissa ≤ 2 ^ precision := by omega
      apply lt_of_le_of_lt fits
      apply Nat.pow_lt_pow_right <;> decide
    · have positive : 0 < (unitsOf numerator denominator exponent).1 :=
        lt_of_lt_of_le (Nat.two_pow_pos _) (full (lt_trans (by decide) whole))
      have worth : ((mantissa * 2 ^ exponent.toNat : Nat) : ℚ) = magnitude mantissa exponent := by
        obtain ⟨power, rfl⟩ := Int.eq_ofNat_of_zero_le whole.le
        simp [magnitude]
      have bound : ((mantissa * 2 ^ exponent.toNat : Nat) : ℚ) < 2 ^ 201 :=
        calc ((mantissa * 2 ^ exponent.toNat : Nat) : ℚ)
            = magnitude mantissa exponent := worth
          _ ≤ magnitude ((unitsOf numerator denominator exponent).1 + 1) exponent :=
            magnitude_le_magnitude high exponent
          _ ≤ 2 * magnitude (unitsOf numerator denominator exponent).1 exponent :=
            magnitude_succ_le positive exponent
          _ ≤ 2 * (numerator / denominator) :=
            mul_le_mul_of_nonneg_left (unitsOf_bounds numerator denominator_pos exponent).1
              zero_le_two
          _ < 2 * 2 ^ 200 := by linarith
          _ = 2 ^ 201 := by norm_num
      have less : mantissa * 2 ^ exponent.toNat < 2 ^ 201 := by exact_mod_cast bound
      apply less.trans
      apply Nat.pow_lt_pow_right <;> decide

theorem numerator_pos_of_le {numerator denominator : Nat}
    (large : 1 / 4 ≤ (numerator : ℚ) / denominator) : 0 < numerator := by
  rcases Nat.eq_zero_or_pos numerator with zero | positive
  · rw [zero] at large
    norm_num at large
  · exact positive

/-- The units of a quotient that is not small are not the smallest ones, so there are many. -/
theorem unitsOf_pos {numerator denominator : Nat} (denominator_pos : 0 < denominator)
    (large : 1 / 4 ≤ (numerator : ℚ) / denominator) :
    0 < (unitsOf numerator denominator (unitExponent numerator denominator)).1 := by
  have numerator_pos := numerator_pos_of_le large
  have normal : leastExponent < unitExponent numerator denominator := by
    have least : (-2 : Int) < (numerator.log2 : Int) - denominator.log2 + 1 := by
      have below := (quotient_bounds numerator_pos denominator_pos).2
      have : (2 : ℚ) ^ (-2 : Int) < 2 ^ ((numerator.log2 : Int) - denominator.log2 + 1) :=
        lt_of_le_of_lt (by norm_num at large ⊢; exact large) below
      exact (zpow_lt_zpow_iff_right₀ one_lt_two).1 this
    have guessed := guess_le_unitExponent numerator denominator
    simp only [leastExponent, precision] at guessed ⊢
    omega
  exact lt_of_lt_of_le (Nat.two_pow_pos _)
    ((unitExponent_bounds numerator_pos denominator_pos).2 normal)

/-- A rounded quotient that is not small lies within a factor of two of the exact one. -/
theorem ofQuotient_near (negative : Bool) {numerator denominator : Nat}
    (denominator_pos : 0 < denominator) (large : 1 / 4 ≤ (numerator : ℚ) / denominator)
    (small : (numerator : ℚ) / denominator < 2 ^ 200) :
    ∃ mantissa exponent,
      ofQuotient negative numerator denominator = finite negative mantissa exponent ∧
        (numerator : ℚ) / denominator ≤ 2 * magnitude mantissa exponent ∧
        magnitude mantissa exponent ≤ 2 * (numerator / denominator) := by
  have numerator_pos := numerator_pos_of_le large
  obtain ⟨mantissa, exponent, chosen, low, high, equal⟩ :=
    ofQuotient_cases negative denominator numerator_pos
  obtain ⟨mantissa', exponent', finiteEqual⟩ := ofQuotient_finite negative denominator_pos small
  obtain ⟨lower, upper⟩ := unitsOf_bounds numerator denominator_pos exponent
  have positive := unitsOf_pos denominator_pos large
  rw [← chosen] at positive
  have double := magnitude_succ_le positive exponent
  have lowMagnitude := magnitude_le_magnitude low exponent
  have highMagnitude := magnitude_le_magnitude high exponent
  refine ⟨mantissa, exponent, ?_, by linarith, by linarith⟩
  rw [equal] at finiteEqual ⊢
  split at finiteEqual
  · next inRange => rw [if_pos inRange]
  · exact absurd finiteEqual (by simp)

/-- The quotient of two finite numbers that are not negative is finite, and so is its whole part,
when the exact quotient is far from the end of the range. -/
theorem truncate?_div {mantissa mantissa' : Nat} {exponent exponent' : Int}
    (positive : 0 < magnitude mantissa' exponent')
    (small : magnitude mantissa exponent / magnitude mantissa' exponent' < 2 ^ 200) :
    ∃ whole : Nat, ((finite false mantissa exponent).div
      (finite false mantissa' exponent')).truncate? = some (whole : Int) := by
  have nonzero : mantissa' ≠ 0 := by
    rintro rfl
    simp [magnitude] at positive
  have divisor_pos : 0 < (toQuotient mantissa exponent).2 * (toQuotient mantissa' exponent').1 := by
    apply Nat.mul_pos (toQuotient_snd_pos mantissa exponent)
    rw [← toQuotient_eq] at positive
    rcases Nat.eq_zero_or_pos (toQuotient mantissa' exponent').1 with zero | filled
    · simp [zero] at positive
    · exact filled
  rw [← toQuotient_eq, ← toQuotient_eq, div_div_div_eq] at small
  norm_cast at small
  obtain ⟨mantissa'', exponent'', equal⟩ := ofQuotient_finite (false != false) divisor_pos small
  refine ⟨(toQuotient mantissa'' exponent'').1 / (toQuotient mantissa'' exponent'').2, ?_⟩
  simp only [div, if_neg nonzero, equal]
  rfl

end Binary64

namespace Split

open Binary64

/-- The average length of a line, for a text that is not empty, is at least a half. -/
theorem half_le_average {length lines : Nat} (length_pos : 0 < length) (lines_pos : 0 < lines)
    (few : lines ≤ length + 1) : 1 / 2 ≤ (length : ℚ) / lines := by
  have positive : (0 : ℚ) < lines := by exact_mod_cast lines_pos
  have enough : (lines : ℚ) ≤ 2 * length := by
    exact_mod_cast (show lines ≤ 2 * length by omega)
  rw [div_le_div_iff₀ two_pos positive]
  linarith

theorem average_finite {length lines : Nat} (length_pos : 0 < length) (short : length < 2 ^ 63)
    (lines_pos : 0 < lines) (few : lines ≤ length + 1) :
    ∃ mantissa exponent, ofQuotient false length lines = finite false mantissa exponent ∧
      1 / 4 ≤ magnitude mantissa exponent := by
  have half := half_le_average length_pos lines_pos few
  have bound : (length : ℚ) / lines < 2 ^ 200 := by
    have one_le : (1 : ℚ) ≤ lines := by exact_mod_cast lines_pos
    calc (length : ℚ) / lines ≤ length := div_le_self (Nat.cast_nonneg _) one_le
      _ < 2 ^ 63 := by exact_mod_cast short
      _ ≤ 2 ^ 200 := by norm_num
  obtain ⟨mantissa, exponent, equal, low, -⟩ :=
    ofQuotient_near false lines_pos (by linarith) bound
  exact ⟨mantissa, exponent, equal, by linarith⟩

/-- The sizes that parts of a text have amount to some whole number of lines of average length. -/
theorem wholeLines_average {size : Int} {mantissa : Nat} {exponent : Int} (nonneg : 0 ≤ size)
    (small : size < 2 ^ 63) (average : 1 / 4 ≤ magnitude mantissa exponent) :
    ∃ whole : Nat, wholeLines size (finite false mantissa exponent) = .ok (whole : Int) := by
  obtain ⟨number, rfl⟩ := Int.eq_ofNat_of_zero_le nonneg
  have number_lt : (number : ℚ) < 2 ^ 63 := by exact_mod_cast small
  obtain ⟨mantissa', exponent', equal, bound⟩ : ∃ mantissa' exponent',
      Binary64.ofInt number = finite false mantissa' exponent' ∧
        magnitude mantissa' exponent' ≤ 2 * number := by
    have sign : decide ((number : Int) < 0) = false := by simp
    rw [Binary64.ofInt, sign, Int.natAbs_natCast]
    rcases Nat.eq_zero_or_pos number with zero | positive
    · exact ⟨0, leastExponent, by rw [ofQuotient, if_pos zero], by simp [zero, magnitude]⟩
    · have one_le : (1 : ℚ) ≤ number := by exact_mod_cast positive
      have wide : (2 : ℚ) ^ 63 ≤ 2 ^ 200 := by norm_num
      have large : 1 / 4 ≤ (number : ℚ) / (1 : Nat) := by
        push_cast
        linarith
      have inRange : (number : ℚ) / (1 : Nat) < 2 ^ 200 := by
        push_cast
        linarith
      obtain ⟨mantissa', exponent', equal, -, high⟩ := ofQuotient_near false one_pos large inRange
      exact ⟨mantissa', exponent', equal, by simpa using high⟩
  have average_pos : 0 < magnitude mantissa exponent := by linarith
  have inRange : magnitude mantissa' exponent' / magnitude mantissa exponent < 2 ^ 200 := by
    rw [div_lt_iff₀ average_pos]
    have wide : (2 : ℚ) ^ 67 ≤ 2 ^ 200 := by norm_num
    nlinarith
  obtain ⟨whole, truncated⟩ := truncate?_div average_pos inRange
  exact ⟨whole, by simp [wholeLines, equal, truncated]⟩

end Split

end Segmentation

import LatencyMeter.Proofs.Binary.Significand
import Mathlib.Algebra.Order.Field.Power
import Mathlib.Algebra.Order.Field.Rat
import Mathlib.Tactic.Linarith
import Mathlib.Tactic.NormNum
import Mathlib.Tactic.Ring

/-!
# Rounding to a double

A number that is neither very large nor very small has a double near it: the two differ by at
most one part in `2 ^ 53` of the number. Roundings in a row add up, so what several of them have
made of a number is as many of these factors away from it.
-/

namespace LatencyMeter
namespace Binary

open Float.Model
open Float.Model.UnpackedFloat

/-! ## Values -/

/-- The number that a magnitude is. -/
def Magnitude.value (magnitude : Magnitude) : ℚ :=
  magnitude.significand * 2 ^ magnitude.exponent

theorem Magnitude.value_eq_quotient (magnitude : Magnitude) :
    magnitude.value = magnitude.numerator / magnitude.denominator := by
  have power : (2 : ℚ) ^ magnitude.exponent =
      2 ^ magnitude.exponent.toNat / 2 ^ (-magnitude.exponent).toNat := by
    rw [← zpow_natCast, ← zpow_natCast, ← zpow_sub₀ (by norm_num)]
    congr 1
    omega
  rw [value, power, numerator, denominator, Nat.pow_eq, Nat.pow_eq]
  push_cast
  ring

/-- To carry a bit does not change the number. -/
theorem value_carried (significand : Nat) (exponent : Int) :
    (carried significand exponent).value = significand * 2 ^ exponent := by
  unfold carried
  split
  next full =>
    rw [full, Magnitude.value, zpow_add₀ (by norm_num)]
    push_cast
    ring
  next => rfl

/-! ## Roundings in a row -/

/-- A value that at most a number of roundings in a row have made of an exact one. -/
structure Rounds (count : Nat) (exact value : ℚ) : Prop where
  lower : exact * (1 - 1 / 2 ^ 53) ^ count ≤ value
  upper : value ≤ exact * (1 + 1 / 2 ^ 53) ^ count

/-- An exact value may pass for a rounded one. -/
theorem rounds_self
    (count : Nat)
    {exact : ℚ}
    (nonnegative : 0 ≤ exact) :
    Rounds count exact exact where
  lower := mul_le_of_le_one_right nonnegative (pow_le_one₀ (by norm_num) (by norm_num))
  upper := le_mul_of_one_le_right nonnegative (one_le_pow₀ (by norm_num))

namespace Rounds

variable {count more : Nat} {exact between value divisor : ℚ}

theorem trans
    (first : Rounds count exact between)
    (second : Rounds more between value) :
    Rounds (count + more) exact value := by
  constructor
  · rw [pow_add, ← mul_assoc]
    exact (mul_le_mul_of_nonneg_right first.lower (by positivity)).trans second.lower
  · rw [pow_add, ← mul_assoc]
    exact second.upper.trans (mul_le_mul_of_nonneg_right first.upper (by positivity))

theorem div_right
    (rounds : Rounds count exact value)
    (positive : 0 < divisor) :
    Rounds count (exact / divisor) (value / divisor) where
  lower := by
    rw [div_mul_eq_mul_div]
    exact div_le_div_of_nonneg_right rounds.lower positive.le
  upper := by
    rw [div_mul_eq_mul_div]
    exact div_le_div_of_nonneg_right rounds.upper positive.le

theorem mul_right
    (rounds : Rounds count exact value)
    (positive : 0 < divisor) :
    Rounds count (exact * divisor) (value * divisor) where
  lower := by
    rw [mul_right_comm]
    exact mul_le_mul_of_nonneg_right rounds.lower positive.le
  upper := by
    rw [mul_right_comm]
    exact mul_le_mul_of_nonneg_right rounds.upper positive.le

end Rounds

/-! ## A quotient and the double near it -/

/-- A number that is neither very large nor very small. -/
structure Moderate (exact : ℚ) : Prop where
  lower : (2 : ℚ) ^ (-200 : Int) ≤ exact
  upper : exact < (2 : ℚ) ^ (200 : Int)

/-- What has about a hundred bits at most before and behind the point is moderate. -/
theorem moderate_of_bounds
    {exact : ℚ}
    (lower : 1 / 2 ^ 100 ≤ exact)
    (upper : exact ≤ 2 ^ 101) :
    Moderate exact := by
  constructor
  · refine le_trans ?_ lower
    norm_num
  · refine lt_of_le_of_lt upper ?_
    norm_num

section Quotient

variable {numerator denominator places : Nat} {exponent : Int}

/-- Half a unit of the last place is one part in `2 ^ 53`, or less. -/
theorem rounds_roundDiv
    (positive : 0 < denominator)
    (bits : (numerator / denominator).log2 = 52 + places) :
    Rounds 1 (numerator / denominator)
      (Decimal.roundDiv .toEven numerator (denominator * 2 ^ places) * 2 ^ places) := by
  obtain ⟨least, most⟩ := Decimal.roundDiv_near .toEven numerator
    (Nat.mul_pos positive (Nat.two_pow_pos places))
  have large : hiddenBit * 2 ^ places * denominator ≤ numerator :=
    (Nat.le_div_iff_mul_le positive).mp (bounds_of_log2 bits).1
  generalize Decimal.roundDiv .toEven numerator (denominator * 2 ^ places) = rounded at *
  have divisor : (0 : ℚ) < denominator := by exact_mod_cast positive
  have least' : (2 * numerator : ℚ) ≤ (2 * rounded + 1) * (denominator * 2 ^ places) := by
    exact_mod_cast least
  have most' : (2 * rounded * (denominator * 2 ^ places) : ℚ) ≤
      2 * numerator + denominator * 2 ^ places := by
    exact_mod_cast most
  have large' : (4503599627370496 * 2 ^ places * denominator : ℚ) ≤ numerator := by
    exact_mod_cast large
  constructor
  · rw [pow_one, div_mul_eq_mul_div, div_le_iff₀ divisor]
    linarith
  · rw [pow_one, div_mul_eq_mul_div, le_div_iff₀ divisor]
    linarith

/-- The significand of a quotient with its places dropped lies between two powers of two. -/
theorem quotient_bounds
    (positive : 0 < denominator)
    (bits : (numerator / denominator).log2 = 52 + places)
    (exponent : Int) :
    (2 : ℚ) ^ (52 + (exponent + places)) ≤ numerator / denominator * 2 ^ exponent ∧
      numerator / denominator * 2 ^ exponent < (2 : ℚ) ^ (53 + (exponent + places)) := by
  obtain ⟨lower, upper⟩ := bounds_of_log2 bits
  have divisor : (0 : ℚ) < denominator := by exact_mod_cast positive
  have scale : (0 : ℚ) < 2 ^ exponent := zpow_pos (by norm_num) exponent
  have split (base : Int) :
      (2 : ℚ) ^ (base + (exponent + places)) = 2 ^ base * 2 ^ places * 2 ^ exponent := by
    rw [zpow_add₀ (by norm_num), zpow_add₀ (by norm_num), zpow_natCast]
    ring
  have atLeast : (2 ^ (52 : Int) * 2 ^ places * denominator : ℚ) ≤ numerator := by
    exact_mod_cast (Nat.le_div_iff_mul_le positive).mp lower
  have below : (numerator : ℚ) < 2 ^ (53 : Int) * 2 ^ places * denominator := by
    exact_mod_cast (Nat.div_lt_iff_lt_mul positive).mp upper
  rw [split, split]
  exact ⟨mul_le_mul_of_nonneg_right ((le_div_iff₀ divisor).mpr atLeast) scale.le,
    mul_lt_mul_of_pos_right ((div_lt_iff₀ divisor).mpr below) scale⟩

/-- The last place of a moderate number is one that doubles have. -/
theorem Moderate.place_bounds
    (moderate : Moderate (numerator / denominator * 2 ^ exponent))
    (positive : 0 < denominator)
    (bits : (numerator / denominator).log2 = 52 + places) :
    -253 ≤ exponent + places ∧ exponent + places < 148 := by
  obtain ⟨atLeast, below⟩ := quotient_bounds positive bits exponent
  have least := (zpow_lt_zpow_iff_right₀ (by norm_num)).mp (moderate.lower.trans_lt below)
  have most := (zpow_lt_zpow_iff_right₀ (by norm_num)).mp (atLeast.trans_lt moderate.upper)
  omega

theorem exists_places
    {quotient : Nat}
    (wide : hiddenBit ≤ quotient) :
    exists places : Nat, quotient.log2 = 52 + places := by
  have nonzero : quotient ≠ 0 := by
    unfold hiddenBit at wide
    omega
  exact Nat.exists_eq_add_of_le ((Nat.le_log2 nonzero).mpr (show 2 ^ 52 ≤ _ from wide))

/-- A moderate quotient with enough places becomes a double near it. -/
theorem exists_rounded
    (positive : 0 < denominator)
    (wide : hiddenBit ≤ numerator / denominator)
    (moderate : Moderate (numerator / denominator * 2 ^ exponent)) :
    exists magnitude : Magnitude, magnitude.IsNormal ∧
      Rounds 1 (numerator / denominator * 2 ^ exponent) magnitude.value ∧
      roundWithAccuracy Format.binary64 .positive (numerator / denominator) exponent
          (accuracyOfFraction (numerator % denominator) denominator) =
        magnitude.unpacked := by
  obtain ⟨places, bits⟩ := exists_places wide
  obtain ⟨least, most⟩ := moderate.place_bounds positive bits
  obtain ⟨lower, upper⟩ := rounded_bounds bits
  have within : leastExponent ≤ exponent + places := by
    unfold leastExponent
    omega
  refine ⟨_, isNormal_carried lower upper within (by omega), ?_,
    roundWithAccuracy_eq positive bits within⟩
  have rounds := (rounds_roundDiv positive bits).mul_right
    (zpow_pos (by norm_num : (0 : ℚ) < 2) exponent)
  rwa [value_carried, zpow_add₀ (by norm_num), zpow_natCast, mul_comm (_ ^ exponent), ← mul_assoc]

/-- The case of a quotient without a rest. -/
theorem exists_rounded_whole
    {mantissa : Nat}
    (wide : hiddenBit ≤ mantissa)
    (moderate : Moderate (mantissa * 2 ^ exponent)) :
    exists magnitude : Magnitude, magnitude.IsNormal ∧
      Rounds 1 (mantissa * 2 ^ exponent) magnitude.value ∧
      roundWithAccuracy Format.binary64 .positive mantissa exponent .exact =
        magnitude.unpacked := by
  have rounded := @exists_rounded mantissa 1 exponent Nat.one_pos
  rw [Nat.div_one, Nat.mod_one, Nat.cast_one, div_one] at rounded
  exact rounded wide moderate

end Quotient

end Binary
end LatencyMeter

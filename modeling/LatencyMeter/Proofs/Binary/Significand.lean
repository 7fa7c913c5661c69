import LatencyMeter.Decimal.Binary
import Mathlib.Algebra.Order.Ring.Nat
import Mathlib.Algebra.Ring.Int.Defs

/-!
# Significands of doubles

Arithmetic on doubles computes more places of a result than a double has, and drops the ones
that are too many one after the other. Of what is dropped it keeps two bits: the place dropped
last, and whether there was anything behind it. That is enough to round the whole result at
once, as if it had been computed without an end: the significand is the whole number nearest to
a quotient, with ties to the even one.
-/

namespace LatencyMeter
namespace Binary

open Float.Model
open Float.Model.UnpackedFloat

/-- A double of the kind that has a hidden bit. -/
structure Magnitude.IsNormal (magnitude : Magnitude) : Prop where
  hiddenBit_le : hiddenBit ≤ magnitude.significand
  significand_lt : magnitude.significand < 2 * hiddenBit
  least_le : leastExponent ≤ magnitude.exponent
  exponent_le : magnitude.exponent ≤ 971

/-- A magnitude as a number that arithmetic can be done with. -/
def Magnitude.unpacked (magnitude : Magnitude) : UnpackedFloat :=
  if zero : magnitude.significand = 0 then
    .zero .positive
  else
    .finite .positive magnitude.significand magnitude.exponent (Nat.pos_of_ne_zero zero)

theorem log2_eq
    {number bits : Nat}
    (lower : 2 ^ bits ≤ number)
    (upper : number < 2 ^ (bits + 1)) :
    number.log2 = bits :=
  (Nat.log2_eq_iff (Nat.lt_of_lt_of_le (Nat.two_pow_pos bits) lower).ne').mpr ⟨lower, upper⟩

namespace Magnitude.IsNormal

variable {magnitude : Magnitude}

theorem log2_significand (normal : magnitude.IsNormal) : magnitude.significand.log2 = 52 :=
  log2_eq normal.hiddenBit_le normal.significand_lt

theorem unpacked_eq (normal : magnitude.IsNormal) :
    exists positive : 0 < magnitude.significand,
      magnitude.unpacked =
        .finite .positive magnitude.significand magnitude.exponent positive := by
  have positive : 0 < magnitude.significand :=
    Nat.lt_of_lt_of_le (by decide) normal.hiddenBit_le
  exact ⟨positive, dif_neg positive.ne'⟩

end Magnitude.IsNormal

/-! ## Dropping places -/

/-- A mantissa and the two bits for what was dropped behind it stand for a quotient. -/
structure Keeps (kept : ExtendedMantissa) (numerator denominator : Nat) : Prop where
  mantissa_eq : kept.mantissa = numerator / denominator
  roundBit_eq : kept.roundBit = decide (denominator ≤ 2 * (numerator % denominator))
  stickyBit_eq : kept.stickyBit =
    decide (numerator % denominator ≠ 0 ∧ 2 * (numerator % denominator) ≠ denominator)

/-- A division with a rest says where the quotient lies. -/
theorem keeps_quotient
    (numerator : Nat)
    {denominator : Nat}
    (positive : 0 < denominator) :
    Keeps
      (ExtendedMantissa.ofMantissaAndAccuracy (numerator / denominator)
        (accuracyOfFraction (numerator % denominator) denominator))
      numerator denominator := by
  generalize rest_eq : numerator % denominator = rest
  unfold accuracyOfFraction
  split
  next zero =>
    constructor
    · rfl
    · simp [rest_eq, zero, ExtendedMantissa.ofMantissaAndAccuracy, positive.ne']
    · simp [rest_eq, zero, ExtendedMantissa.ofMantissaAndAccuracy]
  next nonzero =>
    rcases Nat.lt_trichotomy (2 * rest) denominator with less | half | more
    · rw [Nat.compare_eq_lt.mpr less]
      constructor
      · rfl
      · simp [rest_eq, ExtendedMantissa.ofMantissaAndAccuracy, less]
      · simp [rest_eq, nonzero, ExtendedMantissa.ofMantissaAndAccuracy, less.ne]
    · rw [Nat.compare_eq_eq.mpr half]
      constructor
      · rfl
      · simp [rest_eq, ExtendedMantissa.ofMantissaAndAccuracy, half]
      · simp [rest_eq, ExtendedMantissa.ofMantissaAndAccuracy, half]
    · rw [Nat.compare_eq_gt.mpr more]
      constructor
      · rfl
      · simp [rest_eq, ExtendedMantissa.ofMantissaAndAccuracy, more.le]
      · simp [rest_eq, nonzero, ExtendedMantissa.ofMantissaAndAccuracy, more.ne']

namespace Keeps

variable {kept : ExtendedMantissa} {numerator denominator : Nat}

/-- To drop one more place is to halve the quotient. -/
theorem shiftRightOne
    (keeps : Keeps kept numerator denominator)
    (positive : 0 < denominator) :
    Keeps kept.shiftRightOne numerator (denominator * 2) := by
  have small := Nat.mod_lt numerator positive
  have parity := Nat.mod_two_eq_zero_or_one (numerator / denominator)
  have rest : numerator % (denominator * 2) =
      numerator % denominator + denominator * (numerator / denominator % 2) := Nat.mod_mul
  constructor
  · rw [ExtendedMantissa.shiftRightOne, keeps.mantissa_eq, Nat.div_div_eq_div_mul]
  · rw [ExtendedMantissa.shiftRightOne, keeps.mantissa_eq, rest]
    rcases parity with even | odd
    · simp [even]; omega
    · simp [odd]; omega
  · rw [ExtendedMantissa.shiftRightOne, keeps.roundBit_eq, keeps.stickyBit_eq, rest]
    rcases parity with even | odd
    · simp [even]; grind
    · simp [odd]; grind

theorem shiftRight
    (keeps : Keeps kept numerator denominator)
    (positive : 0 < denominator)
    (count : Nat) :
    Keeps (kept >>> count) numerator (denominator * 2 ^ count) := by
  induction count with
  | zero => rwa [Nat.pow_zero, Nat.mul_one]
  | succ count hypothesis =>
      rw [Nat.pow_succ, ← Nat.mul_assoc]
      exact hypothesis.shiftRightOne (Nat.mul_pos positive (Nat.two_pow_pos count))

/-- The two bits tell on which side of the middle between two whole numbers a quotient lies. -/
theorem roundedMantissa_eq (keeps : Keeps kept numerator denominator) :
    kept.roundedMantissa = Decimal.roundDiv .toEven numerator denominator := by
  obtain ⟨mantissa, roundBit, stickyBit⟩ := kept
  obtain ⟨rfl, rfl, rfl⟩ := keeps
  unfold Decimal.roundDiv
  generalize numerator % denominator = rest
  dsimp only
  rcases Nat.lt_trichotomy (2 * rest) denominator with less | half | more
  · rw [if_pos less, decide_eq_false (Nat.not_le.mpr less)]
    cases decide (rest ≠ 0 ∧ 2 * rest ≠ denominator) <;> rfl
  · rw [if_neg half.not_lt, if_neg half.not_gt, decide_eq_true half.ge,
      decide_eq_false fun sticky => sticky.2 half]
    rfl
  · rw [if_neg more.not_gt, if_pos more, decide_eq_true more.le,
      decide_eq_true ⟨by omega, more.ne'⟩]
    rfl

end Keeps

/-! ## How many places to drop -/

theorem targetExponent_eq (total : Int) :
    Format.binary64.targetExponent total = max (total - 53) leastExponent := rfl

/-- The bits of a mantissa that a double has no room for are dropped. -/
theorem shiftToTargetExponent_eq
    {mantissa places : Nat}
    {exponent : Int}
    (bits : mantissa.log2 = 52 + places)
    (least : leastExponent ≤ exponent + places)
    (accuracy : Accuracy) :
    shiftToTargetExponent Format.binary64 mantissa exponent accuracy =
      (ExtendedMantissa.ofMantissaAndAccuracy mantissa accuracy >>> places,
        exponent + places) := by
  have target : Format.binary64.targetExponent (totalExponent mantissa exponent) =
      exponent + places := by
    rw [targetExponent_eq, totalExponent, bits]
    push_cast
    omega
  simp only [shiftToTargetExponent, shiftToExponent, target, add_sub_cancel_left,
    Int.toNat_natCast]

/-- A rounded significand; if it was rounded up to one bit too many, that bit is dropped. -/
def carried (significand : Nat) (exponent : Int) : Magnitude :=
  if significand = 2 * hiddenBit then
    ⟨hiddenBit, exponent + 1⟩
  else
    ⟨significand, exponent⟩

section Carried

variable {significand : Nat} {exponent : Int}

theorem isNormal_carried
    (lower : hiddenBit ≤ significand)
    (upper : significand ≤ 2 * hiddenBit)
    (least : leastExponent ≤ exponent)
    (most : exponent ≤ 970) :
    (carried significand exponent).IsNormal := by
  unfold carried
  split
  next full =>
    exact ⟨Nat.le_refl _, by dsimp [hiddenBit]; omega, by dsimp; omega, by dsimp; omega⟩
  next fits => exact ⟨lower, by dsimp; omega, least, by dsimp; omega⟩

/-- No place of a rounded significand is dropped, except for a carried bit. -/
theorem shiftToTargetExponent_carried
    (lower : hiddenBit ≤ significand)
    (upper : significand ≤ 2 * hiddenBit)
    (least : leastExponent ≤ exponent) :
    let shifted := shiftToTargetExponent Format.binary64 significand exponent .exact
    (⟨shifted.1.mantissa, shifted.2⟩ : Magnitude) = carried significand exponent := by
  unfold carried
  split
  next full =>
    have bits : significand.log2 = 52 + 1 := by
      rw [full]
      decide +kernel
    rw [shiftToTargetExponent_eq bits (by push_cast; omega), full]
    rfl
  next fits =>
    have bits : significand.log2 = 52 + 0 := by
      unfold hiddenBit at *
      exact log2_eq (by omega) (by omega)
    rw [shiftToTargetExponent_eq bits (by push_cast; omega)]
    simp
    rfl

end Carried

/-! ## Rounding a quotient -/

/-- A rounded quotient is one of the two whole numbers next to the quotient. -/
theorem roundDiv_bounds (tie : Decimal.Tie) (numerator denominator : Nat) :
    numerator / denominator ≤ Decimal.roundDiv tie numerator denominator ∧
      Decimal.roundDiv tie numerator denominator ≤ numerator / denominator + 1 := by
  unfold Decimal.roundDiv
  dsimp only
  split
  · omega
  · split
    · omega
    · cases tie with
      | toEven => dsimp only; omega
      | awayFromZero => dsimp only; omega

section Quotient

variable {numerator denominator places : Nat}

theorem bounds_of_log2
    {quotient : Nat}
    (bits : quotient.log2 = 52 + places) :
    hiddenBit * 2 ^ places ≤ quotient ∧ quotient < 2 * hiddenBit * 2 ^ places := by
  have nonzero : quotient ≠ 0 := by
    rintro rfl
    rw [Nat.log2_zero] at bits
    omega
  have around := (Nat.log2_eq_iff nonzero).mp bits
  rw [Nat.pow_succ, Nat.pow_add] at around
  unfold hiddenBit
  omega

/-- A quotient with its places dropped is rounded to a significand, or to the next power of
two. -/
theorem rounded_bounds (bits : (numerator / denominator).log2 = 52 + places) :
    let rounded := Decimal.roundDiv .toEven numerator (denominator * 2 ^ places)
    hiddenBit ≤ rounded ∧ rounded ≤ 2 * hiddenBit := by
  intro rounded
  obtain ⟨lower, upper⟩ := bounds_of_log2 bits
  have next := roundDiv_bounds .toEven numerator (denominator * 2 ^ places)
  rw [← Nat.div_div_eq_div_mul] at next
  have least := (Nat.le_div_iff_mul_le (Nat.two_pow_pos places)).mpr lower
  have most := (Nat.div_lt_iff_lt_mul (Nat.two_pow_pos places)).mpr upper
  omega

/-- A quotient that has enough places is rounded to the significand nearest to it. -/
theorem roundWithAccuracy_eq
    {exponent : Int}
    (positive : 0 < denominator)
    (bits : (numerator / denominator).log2 = 52 + places)
    (least : leastExponent ≤ exponent + places) :
    roundWithAccuracy Format.binary64 .positive (numerator / denominator) exponent
        (accuracyOfFraction (numerator % denominator) denominator) =
      (carried (Decimal.roundDiv .toEven numerator (denominator * 2 ^ places))
        (exponent + places)).unpacked := by
  obtain ⟨lower, upper⟩ := rounded_bounds bits
  have shifted := shiftToTargetExponent_carried lower upper least
  have rounded :=
    ((keeps_quotient numerator positive).shiftRight positive places).roundedMantissa_eq
  rw [← shifted, ← rounded]
  unfold roundWithAccuracy
  rw [shiftToTargetExponent_eq bits least]
  rfl

end Quotient

end Binary
end LatencyMeter

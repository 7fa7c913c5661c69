import LatencyMeter.Proofs.Binary.Packing
import LatencyMeter.Proofs.Binary.Rounding

/-!
# Arithmetic on doubles

A product and a quotient of doubles are the exact ones, rounded once, as long as they are
moderate. A whole number becomes a double after two roundings at most: a small one is converted
and then multiplied by one, a larger one is scaled up and then rounded.
-/

namespace LatencyMeter
namespace Binary

open Float.Model
open Float.Model.UnpackedFloat

/-- A double that denotes what at most a number of roundings have made of an exact value. -/
def Near (count : Nat) (exact : ℚ) (number : Float) : Prop :=
  exists magnitude : Magnitude,
    read number = .finite false magnitude ∧ magnitude.IsNormal ∧
      Rounds count exact magnitude.value

/-- A rounded result that is packed. -/
theorem near_pack
    {count : Nat}
    {exact : ℚ}
    {result : UnpackedFloat}
    (rounded : exists magnitude : Magnitude, magnitude.IsNormal ∧
      Rounds count exact magnitude.value ∧ result = magnitude.unpacked) :
    Near count exact ⟨Float.Model.pack result⟩ := by
  obtain ⟨magnitude, normal, rounds, rfl⟩ := rounded
  exact ⟨magnitude, read_pack normal, normal, rounds⟩

/-! ## Products and quotients -/

section Operands

variable {left right : Float} {first second : Magnitude}

theorem near_mul
    (leftRead : read left = .finite false first)
    (rightRead : read right = .finite false second)
    (leftNormal : first.IsNormal)
    (rightNormal : second.IsNormal)
    (moderate : Moderate (first.value * second.value)) :
    Near 1 (first.value * second.value) (left * right) := by
  obtain ⟨leftPositive, leftUnpacked⟩ := leftNormal.unpacked_eq
  obtain ⟨rightPositive, rightUnpacked⟩ := rightNormal.unpacked_eq
  have product : first.value * second.value =
      (first.significand * second.significand : Nat) *
        2 ^ (first.exponent + second.exponent) := by
    rw [Magnitude.value, Magnitude.value, zpow_add₀ (by norm_num)]
    push_cast
    ring
  have wide : hiddenBit ≤ first.significand * second.significand :=
    leftNormal.hiddenBit_le.trans (Nat.le_mul_of_pos_right _ rightPositive)
  rw [product] at moderate ⊢
  change Near 1 _ ⟨Float.Model.pack (UnpackedFloat.mul Format.binary64 left.toModel.unpack
    right.toModel.unpack)⟩
  rw [unpack_of_read leftRead leftNormal, unpack_of_read rightRead rightNormal, leftUnpacked,
    rightUnpacked]
  exact near_pack (exists_rounded_whole wide moderate)

theorem div_finite
    {dividend divisor : Nat}
    {dividendExponent divisorExponent : Int}
    (dividendPositive : 0 < dividend)
    (divisorPositive : 0 < divisor) :
    UnpackedFloat.div Format.binary64
        (.finite .positive dividend dividendExponent dividendPositive)
        (.finite .positive divisor divisorExponent divisorPositive) =
      let quotient :=
        divCore Format.binary64 dividend dividendExponent divisor divisorExponent
      roundWithAccuracy Format.binary64 .positive quotient.1 quotient.2.1 quotient.2.2 := rfl

/-- A quotient of significands is computed to 53 places behind the point. -/
theorem divCore_eq
    (leftNormal : first.IsNormal)
    (rightNormal : second.IsNormal)
    (within : leastExponent ≤ first.exponent - second.exponent - 53) :
    divCore Format.binary64 first.significand first.exponent second.significand
        second.exponent =
      (first.significand * 2 ^ 53 / second.significand, first.exponent - second.exponent - 53,
        accuracyOfFraction (first.significand * 2 ^ 53 % second.significand)
          second.significand) := by
  have target : min (first.exponent - second.exponent)
      (Format.binary64.targetExponent
        (totalExponent first.significand first.exponent -
          totalExponent second.significand second.exponent)) =
      first.exponent - second.exponent - 53 := by
    rw [targetExponent_eq, totalExponent, totalExponent, leftNormal.log2_significand,
      rightNormal.log2_significand]
    omega
  have shift : (first.exponent - second.exponent -
      (first.exponent - second.exponent - 53)).toNat = 53 := by
    omega
  rw [divCore, target]
  simp only [shift, Nat.shiftLeft_eq]

/-- The computed quotient has all the places of a double, and one more at most. -/
theorem dividend_bounds
    (leftNormal : first.IsNormal)
    (rightNormal : second.IsNormal) :
    hiddenBit ≤ first.significand * 2 ^ 53 / second.significand ∧
      first.significand * 2 ^ 53 / second.significand < 2 ^ 54 := by
  obtain ⟨positive, -⟩ := rightNormal.unpacked_eq
  have leftLower := leftNormal.hiddenBit_le
  have leftUpper := leftNormal.significand_lt
  have rightLower := rightNormal.hiddenBit_le
  have rightUpper := rightNormal.significand_lt
  rw [Nat.le_div_iff_mul_le positive, Nat.div_lt_iff_lt_mul positive]
  unfold hiddenBit at *
  omega

theorem near_div
    (leftRead : read left = .finite false first)
    (rightRead : read right = .finite false second)
    (leftNormal : first.IsNormal)
    (rightNormal : second.IsNormal)
    (moderate : Moderate (first.value / second.value)) :
    Near 1 (first.value / second.value) (left / right) := by
  obtain ⟨leftPositive, leftUnpacked⟩ := leftNormal.unpacked_eq
  obtain ⟨rightPositive, rightUnpacked⟩ := rightNormal.unpacked_eq
  have quotient : first.value / second.value =
      (first.significand * 2 ^ 53 : Nat) / second.significand *
        2 ^ (first.exponent - second.exponent - 53) := by
    have two : (2 : ℚ) ≠ 0 := by norm_num
    rw [Magnitude.value, Magnitude.value, zpow_sub₀ two, zpow_sub₀ two]
    push_cast
    ring
  obtain ⟨wide, narrow⟩ := dividend_bounds leftNormal rightNormal
  rw [quotient] at moderate ⊢
  -- The last place of a moderate quotient is far above the least one that doubles have.
  have within : leastExponent ≤ first.exponent - second.exponent - 53 := by
    obtain ⟨places, bits⟩ := exists_places wide
    have few := (Nat.log2_lt (Nat.lt_of_lt_of_le (by decide) wide).ne').mpr narrow
    have place := moderate.place_bounds rightPositive bits
    unfold leastExponent
    omega
  change Near 1 _ ⟨Float.Model.pack (UnpackedFloat.div Format.binary64 left.toModel.unpack
    right.toModel.unpack)⟩
  rw [unpack_of_read leftRead leftNormal, unpack_of_read rightRead rightNormal, leftUnpacked,
    rightUnpacked, div_finite, divCore_eq leftNormal rightNormal within]
  exact near_pack (exists_rounded rightPositive wide moderate)

end Operands

/-! ## Whole numbers -/

/-- One as a magnitude. -/
def one : Magnitude := ⟨hiddenBit, -52⟩

theorem read_one : read (Float.ofBits 0x3FF0000000000000) = .finite false one := by
  decide +kernel

theorem isNormal_one : one.IsNormal := ⟨by decide, by decide, by decide, by decide⟩

theorem value_one : one.value = 1 := by
  norm_num [Magnitude.value, one, hiddenBit]

section Whole

variable {number : Nat}

/-- A whole number that fits a word is rounded to a double once. -/
theorem exists_rounded_ofNat
    (positive : 0 < number)
    (moderate : Moderate number) :
    exists magnitude : Magnitude, magnitude.IsNormal ∧
      Rounds 1 number magnitude.value ∧
      UnpackedFloat.ofNat Format.binary64 number = magnitude.unpacked := by
  generalize shift_eq :
    (0 - Format.binary64.targetExponent (totalExponent number 0)).toNat = shift
  -- The shift fills up what a small number lacks of the bits of a significand.
  have wide : hiddenBit ≤ number * 2 ^ shift := by
    rw [targetExponent_eq, totalExponent] at shift_eq
    unfold leastExponent at shift_eq
    calc
      2 ^ 52 ≤ 2 ^ (number.log2 + shift) := Nat.pow_le_pow_right (by decide) (by omega)
      _ = 2 ^ number.log2 * 2 ^ shift := Nat.pow_add ..
      _ ≤ number * 2 ^ shift := Nat.mul_le_mul_right _ (Nat.log2_self_le positive.ne')
  have value : ((number * 2 ^ shift : Nat) : ℚ) * 2 ^ (0 - shift : Int) = number := by
    rw [zero_sub, zpow_neg, zpow_natCast]
    push_cast
    exact mul_inv_cancel_right₀ (by positivity) _
  have rounded := @exists_rounded_whole (0 - shift) _ wide
  rw [value] at rounded
  obtain ⟨magnitude, normal, rounds, same⟩ := rounded moderate
  refine ⟨magnitude, normal, rounds, ?_⟩
  rw [← same, ← shift_eq, ← Nat.shiftLeft_eq]
  unfold UnpackedFloat.ofNat UnpackedFloat.ofInt UnpackedFloat.normalize
  rw [Int.compare_eq_gt.mpr (by omega : (0 : Int) < number)]
  rfl

/-- A whole number that fits no word is scaled up before it is rounded. -/
theorem ofScientific_eq (positive : 0 < number) :
    UnpackedFloat.ofScientific Format.binary64 number 0 =
      roundWithAccuracy Format.binary64 .positive (number * 2 ^ 53) (-53) .exact := by
  have notSmall : ¬ (0 : Int) < -((2 ^ Format.binary64.exponentBits : Int) + number.log2) := by
    have power : (0 : Int) ≤ 2 ^ Format.binary64.exponentBits := by positivity
    omega
  have notLarge : ¬ (0 : Int) > 2 ^ Format.binary64.exponentBits := by decide
  rw [UnpackedFloat.ofScientific, dif_neg positive.ne', if_neg notLarge, if_neg notSmall,
    if_pos (le_refl 0), ← Nat.shiftLeft_eq]
  -- It is multiplied by the power of ten of its exponent, which is one.
  change roundWithAccuracy Format.binary64 .positive (number <<< 53 * 10 ^ (0 : Int).toNat)
    (-53 + 0) .exact = _
  rw [Int.toNat_zero, pow_zero, mul_one, add_zero]

/-- A small whole number: it is converted as a word and multiplied by one. -/
theorem near_small
    (positive : 0 < number)
    (small : number < 2 ^ 64) :
    Near 2 number (number.toUInt64.toFloat * Float.ofBits 0x3FF0000000000000) := by
  have least : (1 : ℚ) ≤ number := by exact_mod_cast positive
  have most : (number : ℚ) < 2 ^ 64 := by exact_mod_cast small
  have word : number.toUInt64.toNat = number := Nat.mod_eq_of_lt small
  have converted : Near 1 number number.toUInt64.toFloat := by
    change Near 1 number
      ⟨Float.Model.pack (UnpackedFloat.ofNat Format.binary64 number.toUInt64.toNat)⟩
    rw [word]
    exact near_pack
      (exists_rounded_ofNat positive (moderate_of_bounds (by linarith) (by linarith)))
  obtain ⟨magnitude, given, normal, rounds⟩ := converted
  have moderate : Moderate magnitude.value := by
    have lower := rounds.lower
    have upper := rounds.upper
    exact moderate_of_bounds (by linarith) (by linarith)
  have product := near_mul given read_one normal isNormal_one (by rwa [value_one, mul_one])
  rw [value_one, mul_one] at product
  obtain ⟨result, resultRead, resultNormal, more⟩ := product
  exact ⟨result, resultRead, resultNormal, rounds.trans more⟩

/-- A large whole number: it is scaled up and rounded. -/
theorem near_large
    (positive : 0 < number)
    (bound : number < 2 ^ 100) :
    Near 1 number ⟨Float.Model.ofScientific number 0⟩ := by
  have least : (1 : ℚ) ≤ number := by exact_mod_cast positive
  have most : (number : ℚ) < 2 ^ 100 := by exact_mod_cast bound
  have wide : hiddenBit ≤ number * 2 ^ 53 :=
    Nat.le_trans (by decide) (Nat.mul_le_mul_right (2 ^ 53) positive)
  have value : ((number * 2 ^ 53 : Nat) : ℚ) * 2 ^ (-53 : Int) = number := by
    rw [zpow_neg, zpow_ofNat]
    push_cast
    exact mul_inv_cancel_right₀ (by positivity) _
  have rounded := @exists_rounded_whole (-53) _ wide
  rw [value] at rounded
  change Near 1 number ⟨Float.Model.pack (UnpackedFloat.ofScientific Format.binary64 number 0)⟩
  rw [ofScientific_eq positive]
  exact near_pack (rounded (moderate_of_bounds (by linarith) (by linarith)))

/-- A whole number of at most a hundred bits. -/
theorem near_ofNat
    (positive : 0 < number)
    (bound : number < 2 ^ 100) :
    Near 2 number (Float.ofNat number) := by
  change Near 2 number (Float.ofScientific number false 0)
  unfold Float.ofScientific
  split
  next small => exact near_small positive (by omega)
  next =>
    obtain ⟨magnitude, given, normal, rounds⟩ := near_large positive bound
    exact ⟨magnitude, given, normal, (rounds_self 1 (by positivity)).trans rounds⟩

/-- A whole number divided by a double. -/
theorem near_quotient
    {right : Float}
    {divisor : Magnitude}
    (positive : 0 < number)
    (bound : number < 2 ^ 100)
    (rightRead : read right = .finite false divisor)
    (rightNormal : divisor.IsNormal)
    (least : 1 ≤ divisor.value)
    (most : divisor.value ≤ 2 ^ 99) :
    Near 3 (number / divisor.value) (Float.ofNat number / right) := by
  obtain ⟨dividend, leftRead, leftNormal, rounds⟩ := near_ofNat positive bound
  have whole : (1 : ℚ) ≤ number := by exact_mod_cast positive
  have below : (number : ℚ) < 2 ^ 100 := by exact_mod_cast bound
  have lower := rounds.lower
  have upper := rounds.upper
  have moderate : Moderate (dividend.value / divisor.value) := by
    refine moderate_of_bounds ?_ ?_
    · rw [le_div_iff₀ (by linarith)]
      linarith
    · rw [div_le_iff₀ (by linarith)]
      linarith
  obtain ⟨result, resultRead, resultNormal, more⟩ :=
    near_div leftRead rightRead leftNormal rightNormal moderate
  exact ⟨result, resultRead, resultNormal, (rounds.div_right (by linarith)).trans more⟩

end Whole

end Binary
end LatencyMeter

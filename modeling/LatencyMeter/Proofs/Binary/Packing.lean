import LatencyMeter.Proofs.Binary.Significand

/-!
# The bits of a double

The exact reading of a double looks at its 64 bits; arithmetic takes a double apart into a sign,
a significand and an exponent, and packs its result again. Both see the same number: what the
bits denote is what the double is taken apart into, and a magnitude that is packed reads back.
-/

namespace LatencyMeter
namespace Binary

open Float.Model
open Float.Model.UnpackedFloat

/-! ## Taking apart -/

/-- Whether a sign is a minus sign. -/
def isNegative : Sign -> Bool
  | .negative => true
  | .positive => false

/-- What a number denotes that is taken apart. -/
def reading : UnpackedFloat -> Reading
  | .infinity sign => .infinite (isNegative sign)
  | .notANumber => .notANumber
  | .zero sign => .finite (isNegative sign) ⟨0, leastExponent⟩
  | .finite sign significand exponent _ => .finite (isNegative sign) ⟨significand, exponent⟩

section Bits

variable (bits : BitVec Format.binary64.numBits)

theorem toNat_unpackMantissa : (unpackMantissa bits).toNat = bits.toNat % hiddenBit := by
  simp [unpackMantissa, hiddenBit]

theorem toNat_unpackExponent : (unpackExponent bits).toNat = bits.toNat / hiddenBit % 2048 := by
  simp [unpackExponent, hiddenBit, Nat.shiftRight_eq_div_pow]

theorem toNat_unpackSign : (unpackSign bits).toNat = bits.toNat / 9223372036854775808 % 2 := by
  change (BitVec.extractLsb 63 63 bits).toNat = _
  rw [BitVec.extractLsb_toNat, Nat.shiftRight_eq_div_pow]

theorem isNegative_unpackSign :
    isNegative (Sign.ofBitVec (unpackSign bits)) = (bits.toNat / 9223372036854775808 == 1) := by
  have sign := toNat_unpackSign bits
  have bound : bits.toNat < 2 ^ 64 := bits.isLt
  unfold Sign.ofBitVec
  split
  next plus =>
    rw [plus] at sign
    simp at sign
    simp [isNegative]
    omega
  next minus =>
    have one : (unpackSign bits).toNat ≠ 0 := fun zero => minus (BitVec.eq_of_toNat_eq zero)
    simp [isNegative]
    omega

theorem toNat_append_hidden (fraction : BitVec 52) :
    (1#1 ++ fraction).toNat = fraction.toNat + hiddenBit := by
  rw [BitVec.toNat_append, ← Nat.shiftLeft_add_eq_or_of_lt fraction.isLt, Nat.add_comm]
  rfl

/-- What the bits of a double denote is what they are taken apart into. -/
theorem readBits_toNat :
    readBits bits.toNat = reading (UnpackedFloat.unpack Format.binary64 bits) := by
  have ones : unpackExponent bits = -1#_ ↔ (unpackExponent bits).toNat = 2047 := by
    rw [← BitVec.toNat_inj]
    rfl
  have zeros : unpackExponent bits = 0#_ ↔ (unpackExponent bits).toNat = 0 := by
    rw [← BitVec.toNat_inj]
    rfl
  have empty : unpackMantissa bits = 0#_ ↔ (unpackMantissa bits).toNat = 0 := by
    rw [← BitVec.toNat_inj]
    rfl
  have bias : (Format.binary64.exponentBias +
      Format.binary64.mantissaBitsWithoutImplicit : Int) = 1075 := rfl
  unfold readBits UnpackedFloat.unpack
  rw [← isNegative_unpackSign, ← toNat_unpackMantissa, ← toNat_unpackExponent]
  dsimp only
  -- The kinds of doubles, by the stored exponent: not finite, then without and with a hidden bit.
  by_cases special : unpackExponent bits = -1#_
  · rw [if_pos (ones.mp special), if_pos special]
    by_cases none : unpackMantissa bits = 0#_
    · rw [if_pos (empty.mp none), if_pos none]
      rfl
    · rw [if_neg (mt empty.mpr none), if_neg none]
      rfl
  · rw [if_neg (mt ones.mpr special), if_neg special]
    by_cases subnormal : unpackExponent bits = 0#_
    · rw [if_pos (zeros.mp subnormal), if_pos subnormal]
      by_cases none : unpackMantissa bits = 0#_
      · rw [dif_pos none, empty.mp none]
        rfl
      · rw [dif_neg none]
        dsimp only [reading]
        rw [bias, zeros.mp subnormal]
        rfl
    · rw [if_neg (mt zeros.mpr subnormal), if_neg subnormal]
      dsimp only [reading, leastExponent]
      rw [bias, toNat_append_hidden]
      have place : forall stored : Nat, stored ≠ 0 ->
          (-1074 + (stored - 1 : Nat) : Int) = stored - 1075 := by
        omega
      rw [place _ (mt zeros.mpr subnormal)]

end Bits

theorem read_eq (number : Float) : read number = reading number.toModel.unpack :=
  readBits_toNat number.toModel.toBits.toBitVec

/-- A double that reads as a magnitude takes part in arithmetic as that magnitude. -/
theorem unpack_of_read
    {number : Float}
    {magnitude : Magnitude}
    (denotes : read number = .finite false magnitude)
    (normal : magnitude.IsNormal) :
    number.toModel.unpack = magnitude.unpacked := by
  rw [read_eq] at denotes
  generalize number.toModel.unpack = unpacked at *
  cases unpacked with
  | infinity sign => contradiction
  | notANumber => contradiction
  | zero sign =>
      obtain ⟨_, rfl⟩ := Reading.finite.inj denotes
      exact absurd normal.hiddenBit_le (by decide)
  | finite sign significand exponent positive =>
      obtain ⟨plus, rfl⟩ := Reading.finite.inj denotes
      cases sign with
      | negative => contradiction
      | positive => rw [Magnitude.unpacked, dif_neg positive.ne']

/-! ## Packing -/

section Packing

variable {magnitude : Magnitude}

theorem pack_finite
    {significand : Nat}
    {exponent : Int}
    (positive : 0 < significand)
    (bits : significand.log2 = 52)
    (bounded : exponent ≤ 971) :
    UnpackedFloat.pack Format.binary64 (.finite .positive significand exponent positive) =
      packComponents Format.binary64 .positive (BitVec.ofNat 11 (exponent + 1075).toNat)
        (BitVec.ofNat 52 significand) := by
  have bias : (exponent + (1023 : Nat) + (52 : Nat)).toNat = (exponent + 1075).toNat := by omega
  change (if 2048 ≤ (exponent + (1023 : Nat) + (52 : Nat)).toNat + 1 then _
    else if significand.log2 + 1 = 53 then _ else _) = _
  rw [if_neg (by omega), if_pos (by omega)]
  exact congrArg (fun biased => packComponents Format.binary64 .positive (BitVec.ofNat 11 biased)
    (BitVec.ofNat 52 significand)) bias

/-- The bits of a packed magnitude: its exponent, and its significand without the hidden bit. -/
theorem toNat_pack_unpacked (normal : magnitude.IsNormal) :
    (UnpackedFloat.pack Format.binary64 magnitude.unpacked).toNat =
      (magnitude.exponent + 1075).toNat * hiddenBit + (magnitude.significand - hiddenBit) := by
  obtain ⟨positive, unpacked_eq⟩ := normal.unpacked_eq
  rw [unpacked_eq, pack_finite positive normal.log2_significand normal.exponent_le]
  obtain ⟨significand, exponent⟩ := magnitude
  obtain ⟨lower, upper, least, most⟩ := normal
  dsimp only at *
  have exponentFits : (exponent + 1075).toNat < 2 ^ 11 := by omega
  have fractionFits : significand % hiddenBit < 2 ^ 52 := Nat.mod_lt _ (by decide)
  have fraction : significand % hiddenBit = significand - hiddenBit := by
    unfold hiddenBit at *
    omega
  rw [packComponents, BitVec.toNat_append, BitVec.toNat_append, BitVec.toNat_ofNat,
    BitVec.toNat_ofNat]
  change (0 <<< 11 ||| (exponent + 1075).toNat % 2 ^ 11) <<< 52 ||| significand % hiddenBit = _
  rw [Nat.zero_shiftLeft, Nat.zero_or, Nat.mod_eq_of_lt exponentFits,
    ← Nat.shiftLeft_add_eq_or_of_lt fractionFits, Nat.shiftLeft_eq, fraction]
  rfl

/-- A magnitude that is packed reads back. -/
theorem read_pack (normal : magnitude.IsNormal) :
    read ⟨Float.Model.pack magnitude.unpacked⟩ = .finite false magnitude := by
  have bits := toNat_pack_unpacked normal
  change readBits (UnpackedFloat.pack Format.binary64 magnitude.unpacked).toNat = _
  rw [bits]
  obtain ⟨significand, exponent⟩ := magnitude
  obtain ⟨lower, upper, least, most⟩ := normal
  obtain ⟨fraction, rfl⟩ := Nat.exists_eq_add_of_le' lower
  unfold leastExponent hiddenBit at *
  dsimp only at *
  generalize stored_eq : (exponent + 1075).toNat = stored
  have sign : (stored * 4503599627370496 + fraction) / 9223372036854775808 = 0 := by omega
  have middle : (stored * 4503599627370496 + fraction) / 4503599627370496 % 2048 = stored := by
    omega
  have low : (stored * 4503599627370496 + fraction) % 4503599627370496 = fraction := by omega
  rw [Nat.add_sub_cancel, readBits]
  unfold hiddenBit leastExponent
  simp only [sign, middle, low]
  rw [if_neg (by omega), if_neg (by omega)]
  congr 2
  omega

end Packing

end Binary
end LatencyMeter

import LatencyMeter.EchoWindow

/-!
# Marks as bits

Two positions of a ring share a bit of a word only if they are equal. So marking or
clearing one of them leaves the marks of all others as they were.
-/

namespace LatencyMeter
namespace EchoRing

/-! ## Words -/

/-- The mask of a position has the bit of the position and no other. -/
theorem toBitVec_mask (position : Fin 4096) :
    (mask position).toBitVec = BitVec.twoPow 64 (position.val % 64) := by
  have small : position.val % 64 % 2 ^ 64 % 64 = position.val % 64 := by omega
  unfold mask
  rw [BitVec.twoPow_eq, UInt64.toBitVec_shiftLeft, BitVec.shiftLeft_eq', BitVec.toNat_umod]
  change 1#64 <<< (position.val % 64 % 2 ^ 64 % 64) = _
  rw [small]

/-- A word and the mask of a position have a bit in common if the word has the bit. -/
theorem and_mask_bne_zero (word : UInt64) (position : Fin 4096) :
    (word &&& mask position != 0) = word.toBitVec.getLsbD (position.val % 64) := by
  have bit : position.val % 64 < 64 := Nat.mod_lt _ (by decide)
  have common : (word &&& mask position).toBitVec =
      if word.toBitVec.getLsbD (position.val % 64) then
        BitVec.twoPow 64 (position.val % 64)
      else 0#64 := by
    rw [UInt64.toBitVec_and, toBitVec_mask, BitVec.and_twoPow]
  have zero : word &&& mask position = 0 ↔ (word &&& mask position).toBitVec = 0#64 :=
    UInt64.toBitVec_inj.symm
  rw [Bool.eq_iff_iff, bne_iff_ne, ne_eq, zero, common]
  have nonzero : BitVec.twoPow 64 (position.val % 64) ≠ 0#64 := by
    intro equal
    have size := congrArg BitVec.toNat equal
    rw [BitVec.toNat_twoPow_of_lt bit] at size
    exact absurd size (Nat.pos_iff_ne_zero.mp (Nat.two_pow_pos _))
  split
  · next set => exact iff_of_true nonzero set
  · next unset => exact iff_of_false (fun differs => differs rfl) unset

/-- The mask of a position has the bit of another one of the same word only if they are
equal. -/
theorem getLsbD_mask
    {position other : Fin 4096}
    (same : word position = word other) :
    (mask position).toBitVec.getLsbD (other.val % 64) = decide (position = other) := by
  have bit : position.val % 64 < 64 := Nat.mod_lt _ (by decide)
  have words : position.val / 64 = other.val / 64 := congrArg Fin.val same
  rw [toBitVec_mask, BitVec.getLsbD_twoPow, Bool.eq_iff_iff]
  simp only [bit, decide_true, Bool.true_and, decide_eq_true_eq, Fin.ext_iff]
  omega

/-! ## Positions -/

theorem isMarked_eq (ring : EchoRing) (position : Fin 4096) :
    ring.isMarked position =
      (ring.words.get (word position)).toBitVec.getLsbD (position.val % 64) :=
  and_mask_bne_zero _ position

@[simp] theorem isMarked_blank (position : Fin 4096) : blank.isMarked position = false := by
  have zero : blank.words.get (word position) = 0 :=
    Vector.getElem_replicate (word position).isLt
  rw [isMarked_eq, zero]
  exact BitVec.getLsbD_zero

theorem get_set (words : Vector UInt64 64) (index other : Fin 64) (value : UInt64) :
    (words.set index value).get other = if index = other then value else words.get other := by
  change (words.set index value)[other.val] = _
  rw [Vector.getElem_set]
  simp only [Fin.ext_iff]
  rfl

/-- After a position was marked, the marked positions are that one and those before. -/
theorem isMarked_mark (ring : EchoRing) (position other : Fin 4096) :
    (ring.mark position).isMarked other =
      if position = other then true else ring.isMarked other := by
  rw [isMarked_eq, isMarked_eq, mark, get_set]
  by_cases same : word position = word other
  · rw [if_pos same, UInt64.toBitVec_or, BitVec.getLsbD_or, getLsbD_mask same, same]
    by_cases equal : position = other <;> simp [equal]
  · have different : position ≠ other := fun equal => same (congrArg word equal)
    rw [if_neg same, if_neg different]

/-- After a position was cleared, the marked positions are those before but that one. -/
theorem isMarked_clear (ring : EchoRing) (position other : Fin 4096) :
    (ring.clear position).isMarked other =
      if position = other then false else ring.isMarked other := by
  have bit : other.val % 64 < 64 := Nat.mod_lt _ (by decide)
  rw [isMarked_eq, isMarked_eq, clear, get_set]
  by_cases same : word position = word other
  · rw [if_pos same, UInt64.toBitVec_and, UInt64.toBitVec_not, BitVec.getLsbD_and,
      BitVec.getLsbD_not, getLsbD_mask same, same]
    by_cases equal : position = other <;> simp [equal, bit]
  · have different : position ≠ other := fun equal => same (congrArg word equal)
    rw [if_neg same, if_neg different]

end EchoRing
end LatencyMeter

/-!
# Words that stop at their limits

Clock readings and counters are 64-bit words. Some operations on them stop at a
limit instead of wrapping: subtraction stops at zero, which turns a clock that
steps back into an interval of length zero, and addition and the conversion of an
arbitrary number stop at the largest word. A product keeps all its 128 bits.
-/

namespace LatencyMeter
namespace Word

/-- The difference of two words, zero when the second is larger. -/
def minus (left right : UInt64) : UInt64 :=
  if right ≤ left then left - right else 0

@[simp] theorem toNat_minus (left right : UInt64) :
    (minus left right).toNat = left.toNat - right.toNat := by
  unfold minus
  split
  next ordered => exact UInt64.toNat_sub_of_le left right ordered
  next reversed =>
    have larger : left.toNat < right.toNat := by
      simpa [UInt64.le_iff_toNat_le] using reversed
    simp only [UInt64.toNat_zero]
    omega

/-- The largest word, as a number. -/
def limit : Nat := 18446744073709551615

/-- The sum of two words, the largest word when it does not fit. -/
def plus (left right : UInt64) : UInt64 :=
  if left ≤ left + right then left + right else UInt64.ofNat limit

@[simp] theorem toNat_plus (left right : UInt64) :
    (plus left right).toNat = min (left.toNat + right.toNat) limit := by
  have leftBound := left.toNat_lt
  have rightBound := right.toNat_lt
  unfold plus limit
  split
  next ordered =>
    rw [UInt64.le_iff_toNat_le, UInt64.toNat_add] at ordered
    rw [UInt64.toNat_add]
    omega
  next wrapped =>
    rw [UInt64.le_iff_toNat_le, UInt64.toNat_add] at wrapped
    rw [UInt64.toNat_ofNat_of_lt' (by decide)]
    omega

/-- The product of two words, which always fits into 128 bits. -/
def product (left right : UInt64) : BitVec 128 :=
  left.toBitVec.setWidth 128 * right.toBitVec.setWidth 128

@[simp] theorem toNat_product (left right : UInt64) :
    (product left right).toNat = left.toNat * right.toNat := by
  have leftBound := left.toNat_lt
  have rightBound := right.toNat_lt
  have bounded : left.toNat * right.toNat < 2 ^ 64 * 2 ^ 64 :=
    Nat.mul_lt_mul'' leftBound rightBound
  simp only [product, BitVec.toNat_mul, BitVec.toNat_setWidth, UInt64.toNat_toBitVec]
  rw [Nat.mod_eq_of_lt (by omega : left.toNat < 2 ^ 128),
    Nat.mod_eq_of_lt (by omega : right.toNat < 2 ^ 128), Nat.mod_eq_of_lt]
  omega

/-- The word nearest to a number. -/
def clamp (value : Nat) : UInt64 :=
  UInt64.ofNat (min value limit)

@[simp] theorem toNat_clamp (value : Nat) :
    (clamp value).toNat = min value limit := by
  have bounded : min value limit < 2 ^ 64 := by
    unfold limit
    omega
  exact UInt64.toNat_ofNat_of_lt' bounded

end Word
end LatencyMeter

import LatencyMeter.Proofs.Word
import LatencyMeter.Schedule

/-!
# The schedule over unbounded numbers

The count of messages that are due is computed in words: in a product of 128 bits, a
conversion that stops at the largest word and an addition that stops there too. None of
these limits shows, because no more messages are due than the plan has.
-/

namespace LatencyMeter
namespace Schedule

/-- The count of messages due is that of the intervals that have passed and one more, as
far as there are messages. -/
theorem toNat_due (elapsed rate count : UInt64) :
    (due elapsed rate count).toNat =
      min count.toNat (elapsed.toNat * rate.toNat / 1000000000 + 1) := by
  have bound := count.toNat_lt
  have intervals : (Word.product elapsed rate / 1000000000#128).toNat =
      elapsed.toNat * rate.toNat / 1000000000 := by
    rw [BitVec.toNat_udiv, Word.toNat_product]
    rfl
  have limited : (Word.plus (Word.clamp (elapsed.toNat * rate.toNat / 1000000000)) 1).toNat =
      min (min (elapsed.toNat * rate.toNat / 1000000000) Word.limit + 1) Word.limit := by
    rw [Word.toNat_plus, Word.toNat_clamp]
    rfl
  unfold due
  rw [intervals, Word.toNat_min, limited]
  unfold Word.limit
  omega

/-- Message `index`, counted from zero, is due as soon as the elapsed time at the rate
makes up `index` intervals. -/
theorem lt_due_iff
    (elapsed rate count : UInt64)
    (index : Nat) :
    index < (due elapsed rate count).toNat ↔
      index < count.toNat ∧ index * 1000000000 ≤ elapsed.toNat * rate.toNat := by
  rw [toNat_due, Nat.lt_min, Nat.lt_succ_iff, Nat.le_div_iff_mul_le (by decide)]

/-- No fewer messages are due after a longer time, at a higher rate or of a larger plan. -/
theorem due_le_due
    {elapsed later rate faster count more : UInt64}
    (time : elapsed ≤ later)
    (pace : rate ≤ faster)
    (plan : count ≤ more) :
    due elapsed rate count ≤ due later faster more := by
  rw [UInt64.le_iff_toNat_le] at *
  rw [toNat_due, toNat_due]
  have intervals : elapsed.toNat * rate.toNat / 1000000000 ≤
      later.toNat * faster.toNat / 1000000000 :=
    Nat.div_le_div_right (Nat.mul_le_mul time pace)
  omega

/-- What is due stays due. -/
theorem due_mono
    {earlier later : UInt64}
    (ordered : earlier ≤ later)
    (rate count : UInt64) :
    (due earlier rate count).toNat ≤ (due later rate count).toNat :=
  UInt64.le_iff_toNat_le.mp (due_le_due ordered (UInt64.le_refl rate) (UInt64.le_refl count))

/-- The first message is due at once. -/
theorem one_le_due
    {count : UInt64}
    (some : 1 ≤ count)
    (elapsed rate : UInt64) :
    1 ≤ due elapsed rate count := by
  rw [UInt64.le_iff_toNat_le, UInt64.toNat_one] at *
  rw [toNat_due]
  omega

/-- The schedule is that of unbounded numbers for all words: the product never wraps, and no
limit shows in the result. -/
theorem due_exact (elapsed rate count : UInt64) :
    (Word.product elapsed rate).toNat = elapsed.toNat * rate.toNat ∧
      (due elapsed rate count).toNat =
        min count.toNat (elapsed.toNat * rate.toNat / 1000000000 + 1) ∧
      due elapsed rate count ≤ count ∧
      (1 ≤ count -> 1 ≤ due elapsed rate count) ∧
      forall later faster more : UInt64,
        elapsed ≤ later -> rate ≤ faster -> count ≤ more ->
          due elapsed rate count ≤ due later faster more :=
  ⟨Word.toNat_product elapsed rate, toNat_due elapsed rate count, due_le elapsed rate count,
    fun some => one_le_due some elapsed rate,
    fun _ _ _ time pace plan => due_le_due time pace plan⟩

/-- All of a plan as large as words allow is due where the quotient does not fit a word. -/
theorem due_exact_at_limits :
    let last := UInt64.ofNat Word.limit
    (due last last last).toNat = Word.limit ∧ 1 ≤ last ∧ 1 ≤ due last last last ∧
      due 0 1 1 ≤ due last last last := by
  intro last
  obtain ⟨_, value, _, some, _⟩ := due_exact last last last
  obtain ⟨_, _, _, _, grows⟩ := due_exact 0 1 1
  exact ⟨value.trans (by decide), by decide, some (by decide),
    grows last last last (by decide) (by decide) (by decide)⟩

/-- What is missing of the messages that are due is left of the plan. -/
theorem add_missing_le
    {sent count : UInt64}
    (within : sent ≤ count)
    (elapsed rate : UInt64) :
    sent.toNat + (Word.minus (due elapsed rate count) sent).toNat ≤ count.toNat := by
  have most := UInt64.le_iff_toNat_le.mp (due_le elapsed rate count)
  have few := UInt64.le_iff_toNat_le.mp within
  rw [Word.toNat_minus]
  omega

end Schedule
end LatencyMeter

import LatencyMeter.Proofs.Histogram.Samples
import Mathlib.Algebra.Order.BigOperators.Group.List
import Mathlib.Algebra.Order.Group.Nat

/-!
# The mean that a histogram reports

A histogram keeps the sum of its samples in a word, modulo `2 ^ 64`, and reports this sum
divided by their count. While the sum fits into a word the quotient is the mean of the
samples, rounded down, and lies between the least and the greatest of them. Beyond that it
is smaller than the mean, so it never exceeds the greatest sample, but it may fall below
the least one.
-/

namespace LatencyMeter
namespace Histogram

/-! ## Sums of samples -/

theorem length_mul_le_sum
    {samples : List UInt64}
    {least : UInt64}
    (smallest : samples.min? = some least) :
    samples.length * least.toNat ≤ (samples.map UInt64.toNat).sum := by
  obtain ⟨_, lower⟩ := List.min?_eq_some_iff.mp smallest
  have bound : forall value, value ∈ samples.map UInt64.toNat -> least.toNat ≤ value := by
    simpa using fun sample member => UInt64.le_iff_toNat_le.mp (lower sample member)
  have summed := List.card_nsmul_le_sum _ _ bound
  rwa [List.length_map, Nat.nsmul_eq_mul] at summed

theorem sum_le_length_mul
    {samples : List UInt64}
    {greatest : UInt64}
    (largest : samples.max? = some greatest) :
    (samples.map UInt64.toNat).sum ≤ samples.length * greatest.toNat := by
  obtain ⟨_, upper⟩ := List.max?_eq_some_iff.mp largest
  have bound : forall value, value ∈ samples.map UInt64.toNat -> value ≤ greatest.toNat := by
    simpa using fun sample member => UInt64.le_iff_toNat_le.mp (upper sample member)
  have summed := List.sum_le_card_nsmul _ _ bound
  rwa [List.length_map, Nat.nsmul_eq_mul] at summed

/-- A total that wraps loses at least a word, which is at least one for each of the samples. -/
theorem mod_word_div_eq_iff
    {total count : Nat}
    (positive : 0 < count)
    (few : count < 2 ^ 64) :
    total % 2 ^ 64 / count = total / count ↔ total < 2 ^ 64 := by
  constructor
  · intro same
    by_contra wraps
    have less : total % 2 ^ 64 + count ≤ total := by omega
    have quotient : (total % 2 ^ 64 + count) / count ≤ total / count :=
      Nat.div_le_div_right less
    rw [Nat.add_div_right _ positive, same] at quotient
    omega
  · intro fits
    rw [Nat.mod_eq_of_lt fits]

/-! ## The reported mean -/

/-- The mean is the sum of the samples by their count, both as words. -/
theorem summary_mean
    (bucketCount : Nat)
    (width : UInt64)
    (samples : List UInt64) :
    (ofSamples bucketCount width samples).summary.mean =
      if samples.length % 2 ^ 64 = 0 then none
      else
        some (UInt64.ofNat (samples.map UInt64.toNat).sum / UInt64.ofNat samples.length) := by
  change (ofSamples bucketCount width samples).whenSampled
    (UInt64.ofNat (samples.map UInt64.toNat).sum / UInt64.ofNat samples.length) = _
  unfold whenSampled
  simp only [ofSamples, UInt64.lt_iff_toNat_lt, UInt64.toNat_ofNat', UInt64.toNat_zero,
    Nat.pos_iff_ne_zero, ne_eq, ite_not]

/-- Whatever a new histogram has been asked to do, once it holds a sample it reports the sum
of its samples modulo `2 ^ 64` divided by their count, rounded down. The quotient never
exceeds the greatest sample. It is the mean of the samples, rounded down, exactly if their
sum fits into a word, and then it is no less than the least sample. Only a count that has
itself come round to zero leaves no mean to report. -/
theorem mean_eq_iff_sum_fits
    (bucketCount width : UInt64)
    (hasBuckets : 0 < bucketCount)
    (hasWidth : 0 < width)
    (allocatable : bucketCount < unallocatable)
    (calls : List Call)
    (sampled : Call.accepted calls ≠ []) :
    exists empty, create ⟨bucketCount, width⟩ = .ok empty ∧
      let summary := (empty.performAll calls).summary
      let samples := Call.accepted calls
      let total := (samples.map UInt64.toNat).sum
      (summary.mean = none ↔ samples.length % 2 ^ 64 = 0) ∧
      (samples.length < 2 ^ 64 ->
        exists mean least greatest,
          summary.mean = some mean ∧
          summary.least = some least ∧
          summary.greatest = some greatest ∧
          mean.toNat = total % 2 ^ 64 / samples.length ∧
          mean ≤ greatest ∧
          (mean.toNat = total / samples.length ↔ total < 2 ^ 64) ∧
          (total < 2 ^ 64 -> least ≤ mean)) := by
  refine ⟨_, create_of_allocatable hasBuckets hasWidth allocatable, ?_⟩
  intro summary samples total
  have stands : summary = (ofSamples bucketCount.toNat width samples).summary :=
    congrArg Histogram.summary (performAll_fresh hasWidth bucketCount.toNat calls)
  have mean : summary.mean = _ := stands ▸ summary_mean bucketCount.toNat width samples
  refine ⟨?_, fun few => ?_⟩
  · rw [mean]
    split <;> simp_all
  have positive : 0 < samples.length := List.length_pos_iff.mpr sampled
  obtain ⟨least, smallest⟩ := Option.ne_none_iff_exists'.mp (mt List.min?_eq_none_iff.mp sampled)
  obtain ⟨greatest, largest⟩ :=
    Option.ne_none_iff_exists'.mp (mt List.max?_eq_none_iff.mp sampled)
  rw [if_neg (by omega)] at mean
  have quotient :
      (UInt64.ofNat total / UInt64.ofNat samples.length).toNat =
        total % 2 ^ 64 / samples.length := by
    rw [UInt64.toNat_div, UInt64.toNat_ofNat', UInt64.toNat_ofNat_of_lt' few]
  have lower := length_mul_le_sum smallest
  have upper := sum_le_length_mul largest
  refine ⟨_, least, greatest, mean, ?_, ?_, quotient, ?_, ?_, ?_⟩
  · rw [stands, summary_least few, smallest]
  · rw [stands, summary_greatest few, largest]
  · rw [UInt64.le_iff_toNat_le, quotient]
    exact Nat.div_le_of_le_mul (Nat.le_trans (Nat.mod_le _ _) upper)
  · rw [quotient]
    exact mod_word_div_eq_iff positive few
  · intro fits
    rw [UInt64.le_iff_toNat_le, quotient, Nat.mod_eq_of_lt fits,
      Nat.le_div_iff_mul_le positive, Nat.mul_comm]
    exact lower

/-- The samples after the reset add up to the largest word, and their mean is exact. -/
theorem mean_of_largest_sum :
    let calls : List Call :=
      [.record 7, .reset, .record 18446744073709551600, .recordInterval 3 10,
        .recordInterval 10 3, .record 8]
    (0 : UInt64) < 2 ∧ (0 : UInt64) < 100 ∧ (2 : UInt64) < unallocatable ∧
      Call.accepted calls ≠ [] ∧
      exists empty, create ⟨2, 100⟩ = .ok empty ∧
        (empty.performAll calls).summary.mean = some 6148914691236517205 := by
  intro calls
  have accepted : Call.accepted calls = [8, 7, 18446744073709551600] := by decide
  have sampled : Call.accepted calls ≠ [] := by
    rw [accepted]
    decide
  obtain ⟨empty, created, _, reports⟩ :=
    mean_eq_iff_sum_fits 2 100 (by decide) (by decide) (by decide) calls sampled
  obtain ⟨mean, _, _, reported, _, _, quotient, _⟩ := reports (by rw [accepted]; decide)
  refine ⟨by decide, by decide, by decide, sampled, empty, created, ?_⟩
  rw [reported]
  rw [accepted] at quotient
  exact congrArg some (UInt64.toNat_inj.mp quotient)

/-- Two samples of half the range of a word add up to zero, and so does their mean. -/
theorem mean_below_least_of_two_large_samples :
    exists empty, create ⟨10, 100⟩ = .ok empty ∧
      let summary :=
        (empty.performAll [.record 9223372036854775808, .record 9223372036854775808]).summary
      let total := 9223372036854775808 + 9223372036854775808
      summary.count = 2 ∧ summary.mean = some 0 ∧
        summary.mean ≠ some (UInt64.ofNat (total / 2)) ∧
        summary.least = some 9223372036854775808 ∧
        summary.greatest = some 9223372036854775808 ∧
        ¬ (9223372036854775808 : UInt64) ≤ 0 := by
  refine ⟨_, rfl, ?_⟩
  decide +kernel

end Histogram
end LatencyMeter

import LatencyMeter.Histogram
import LatencyMeter.Proofs.Word
import Mathlib.Algebra.Ring.Nat
import Mathlib.Data.List.Induction
import Mathlib.Data.UInt

/-!
# What a histogram says about its samples

A histogram does not keep its samples. This module says, from a list of samples alone,
which histogram should stand for them, and shows that recording, refusing an interval
and resetting lead from one such histogram to another. So the counters of a histogram
are those of the samples accepted since the last reset, and their order does not matter.

Edges of buckets are natural numbers here. They need not fit into a word: the last
bucket of a histogram may end beyond the largest sample there can be.
-/

namespace LatencyMeter
namespace Histogram

/-- The bucket is the one for the sample. -/
def covers (width : UInt64) (index : Nat) (sample : UInt64) : Bool :=
  decide (index * width.toNat ≤ sample.toNat ∧ sample.toNat < (index + 1) * width.toNat)

/-- The sample lies at or beyond an edge. -/
def reaches (edge : Nat) (sample : UInt64) : Bool := decide (edge ≤ sample.toNat)

/-- A sample falls into the bucket that its quotient by the width names. -/
theorem covers_iff
    {width : UInt64}
    (positive : 0 < width)
    (index : Nat)
    (sample : UInt64) :
    covers width index sample = true ↔ index = (sample / width).toNat := by
  have wide : 0 < width.toNat := UInt64.lt_iff_toNat_lt.mp positive
  rw [covers, decide_eq_true_iff, UInt64.toNat_div, eq_comm, Nat.div_eq_iff wide,
    Nat.add_one_mul]
  omega

/-- A sample lies beyond the last bucket exactly if its quotient names no bucket. -/
theorem reaches_iff
    {width : UInt64}
    (positive : 0 < width)
    (bucketCount : Nat)
    (sample : UInt64) :
    reaches (bucketCount * width.toNat) sample = true ↔
      bucketCount ≤ (sample / width).toNat := by
  have wide : 0 < width.toNat := UInt64.lt_iff_toNat_lt.mp positive
  rw [reaches, decide_eq_true_iff, UInt64.toNat_div, Nat.le_div_iff_mul_le wide]

/-! ## The histogram of some samples -/

/-- The counter of each bucket, for some samples. -/
def bucketsOf (bucketCount : Nat) (width : UInt64) (samples : List UInt64) : Array UInt64 :=
  ((List.range bucketCount).map fun index =>
    UInt64.ofNat (samples.countP (covers width index))).toArray

@[simp] theorem size_bucketsOf
    (bucketCount : Nat)
    (width : UInt64)
    (samples : List UInt64) :
    (bucketsOf bucketCount width samples).size = bucketCount := by
  rw [bucketsOf, List.size_toArray, List.length_map, List.length_range]

theorem getElem_bucketsOf
    {bucketCount : Nat}
    {width : UInt64}
    {samples : List UInt64}
    {index : Nat}
    (inside : index < (bucketsOf bucketCount width samples).size) :
    (bucketsOf bucketCount width samples)[index] =
      UInt64.ofNat (samples.countP (covers width index)) := by
  simp only [bucketsOf, List.getElem_toArray, List.getElem_map, List.getElem_range]

/-- The histogram that stands for some samples. -/
def ofSamples (bucketCount : Nat) (width : UInt64) (samples : List UInt64) : Histogram where
  width := width
  buckets := bucketsOf bucketCount width samples
  overflows := UInt64.ofNat (samples.countP (reaches (bucketCount * width.toNat)))
  count := UInt64.ofNat samples.length
  sum := UInt64.ofNat (samples.map UInt64.toNat).sum
  least := samples.min?.getD (UInt64.ofNat Word.limit)
  greatest := samples.max?.getD 0

theorem fresh_eq_ofSamples (bucketCount : Nat) (width : UInt64) :
    fresh bucketCount width = ofSamples bucketCount width [] := by
  have buckets : Array.replicate bucketCount (0 : UInt64) = bucketsOf bucketCount width [] := by
    apply Array.ext
    · rw [Array.size_replicate, size_bucketsOf]
    · intro index _ _
      rw [Array.getElem_replicate, getElem_bucketsOf]
      rfl
  unfold fresh
  rw [buckets]
  rfl

theorem reset_ofSamples
    (bucketCount : Nat)
    (width : UInt64)
    (samples : List UInt64) :
    (ofSamples bucketCount width samples).reset = ofSamples bucketCount width [] := by
  rw [← fresh_eq_ofSamples]
  exact congrArg (fresh · width) (size_bucketsOf bucketCount width samples)

/-- The order of the samples does not matter. -/
theorem ofSamples_eq_of_perm
    (bucketCount : Nat)
    (width : UInt64)
    {left right : List UInt64}
    (same : left.Perm right) :
    ofSamples bucketCount width left = ofSamples bucketCount width right := by
  have buckets : bucketsOf bucketCount width left = bucketsOf bucketCount width right := by
    unfold bucketsOf
    simp only [same.countP_eq]
  unfold ofSamples
  rw [buckets, same.countP_eq, same.length_eq, (same.map UInt64.toNat).sum_nat,
    Word.min?_eq_of_perm same, Word.max?_eq_of_perm same]

/-! ## Recording -/

theorem ofNat_countP_cons
    (predicate : UInt64 -> Bool)
    (sample : UInt64)
    (samples : List UInt64) :
    UInt64.ofNat ((sample :: samples).countP predicate) =
      UInt64.ofNat (samples.countP predicate) + if predicate sample then 1 else 0 := by
  rw [List.countP_cons, UInt64.ofNat_add]
  split <;> rfl

/-- A sample within the range raises the counter of its bucket. -/
theorem bucketsOf_cons
    {width : UInt64}
    (positive : 0 < width)
    (bucketCount : Nat)
    (sample : UInt64)
    (samples : List UInt64) :
    bucketsOf bucketCount width (sample :: samples) =
      (bucketsOf bucketCount width samples).modify (sample / width).toNat (· + 1) := by
  apply Array.ext
  · rw [Array.size_modify, size_bucketsOf, size_bucketsOf]
  · intro index _ _
    rw [getElem_bucketsOf, Array.getElem_modify, getElem_bucketsOf, ofNat_countP_cons]
    have covered := covers_iff positive index sample
    by_cases here : index = (sample / width).toNat
    · rw [if_pos (covered.mpr here), if_pos here.symm]
    · rw [if_neg (mt covered.mp here), if_neg (Ne.symm here), UInt64.add_zero]

theorem least_cons (sample : UInt64) (samples : List UInt64) :
    (sample :: samples).min?.getD (UInt64.ofNat Word.limit) =
      if sample < samples.min?.getD (UInt64.ofNat Word.limit) then sample
      else samples.min?.getD (UInt64.ofNat Word.limit) := by
  rw [List.min?_cons, Option.getD_some]
  cases samples.min? with
  | none =>
      rw [Option.elim_none, Option.getD_none]
      split
      · rfl
      · next largest =>
        exact UInt64.le_antisymm (Word.le_limit sample) (UInt64.not_lt.mp largest)
  | some least => exact Word.min_eq_ite sample least

theorem greatest_cons (sample : UInt64) (samples : List UInt64) :
    (sample :: samples).max?.getD 0 =
      if samples.max?.getD 0 < sample then sample else samples.max?.getD 0 := by
  rw [List.max?_cons, Option.getD_some]
  cases samples.max? with
  | none =>
      rw [Option.elim_none, Option.getD_none]
      split
      · rfl
      · next zero => exact UInt64.le_zero_iff.mp (UInt64.not_lt.mp zero)
  | some greatest => exact Word.max_eq_ite sample greatest

/-- Recording a sample leads to the histogram of one sample more. -/
theorem record_ofSamples
    {width : UInt64}
    (positive : 0 < width)
    (bucketCount : Nat)
    (samples : List UInt64)
    (sample : UInt64) :
    (ofSamples bucketCount width samples).record sample =
      ofSamples bucketCount width (sample :: samples) := by
  have counted : UInt64.ofNat (sample :: samples).length =
      UInt64.ofNat samples.length + 1 := by
    rw [List.length_cons, UInt64.ofNat_add]
    rfl
  have summed : UInt64.ofNat ((sample :: samples).map UInt64.toNat).sum =
      UInt64.ofNat (samples.map UInt64.toNat).sum + sample := by
    rw [List.map_cons, List.sum_cons, UInt64.ofNat_add, UInt64.ofNat_toNat, UInt64.add_comm]
  have overflowed := reaches_iff positive bucketCount sample
  unfold record tally
  simp only [ofSamples, size_bucketsOf]
  rw [counted, summed, least_cons, greatest_cons, ofNat_countP_cons,
    bucketsOf_cons positive]
  by_cases inside : (sample / width).toNat < bucketCount
  · rw [if_pos inside, if_neg fun reached => Nat.not_lt.mpr (overflowed.mp reached) inside,
      UInt64.add_zero]
    rfl
  · -- A quotient that names no bucket leaves the counters of all buckets as they are.
    have kept : (bucketsOf bucketCount width samples).modify (sample / width).toNat (· + 1) =
        bucketsOf bucketCount width samples := by
      apply Array.ext
      · exact Array.size_modify
      · intro index within _
        rw [Array.size_modify, size_bucketsOf] at within
        exact Array.getElem_modify_of_ne (by omega) (· + 1) _
    rw [if_neg inside, if_pos (overflowed.mpr (Nat.not_lt.mp inside)), kept]
    rfl

/-! ## Calls -/

/-- What a histogram can be asked to do. -/
inductive Call
  | record (sample : UInt64)
  | recordInterval (start finish : UInt64)
  | reset
  deriving DecidableEq, Repr

/-- Do what is asked: what it reports, if it is refused, and the histogram afterwards. -/
def perform (histogram : Histogram) : Call -> Option HistogramFault × Histogram
  | .record sample => (none, histogram.record sample)
  | .recordInterval start finish =>
      match histogram.recordInterval start finish with
      | .ok recorded => (none, recorded)
      | .error fault => (some fault, histogram)
  | .reset => (none, histogram.reset)

/-- Do several things in a row. -/
def performAll (histogram : Histogram) (calls : List Call) : Histogram :=
  calls.foldl (fun histogram call => (histogram.perform call).2) histogram

/-- The samples that count after a call, the latest first, when some counted before. -/
def Call.keep (samples : List UInt64) : Call -> List UInt64
  | .record sample => sample :: samples
  | .recordInterval start finish =>
      if start ≤ finish then (finish - start) :: samples else samples
  | .reset => []

/-- The samples accepted since the last reset, the latest first. -/
def Call.accepted (calls : List Call) : List UInt64 := calls.foldl keep []

/-- An interval that runs forwards is recorded as a sample. -/
theorem perform_forwards
    (histogram : Histogram)
    {start finish : UInt64}
    (forwards : start ≤ finish) :
    histogram.perform (.recordInterval start finish) =
      (none, histogram.record (finish - start)) := by
  have recorded : histogram.recordInterval start finish =
      .ok (histogram.record (finish - start)) := if_pos forwards
  simp only [perform, recorded]

/-- An interval that runs backwards is refused and changes nothing. -/
theorem perform_backwards
    (histogram : Histogram)
    {start finish : UInt64}
    (backwards : finish < start) :
    histogram.perform (.recordInterval start finish) =
      (some (.negativeSample start finish), histogram) := by
  have refused : histogram.recordInterval start finish =
      .error (.negativeSample start finish) := if_neg (UInt64.not_le.mpr backwards)
  simp only [perform, refused]

/-- One call leads to the histogram of the samples that count after it. -/
theorem perform_ofSamples
    {width : UInt64}
    (positive : 0 < width)
    (bucketCount : Nat)
    (samples : List UInt64)
    (call : Call) :
    ((ofSamples bucketCount width samples).perform call).2 =
      ofSamples bucketCount width (call.keep samples) := by
  cases call with
  | record sample => exact record_ofSamples positive bucketCount samples sample
  | recordInterval start finish =>
      by_cases forwards : start ≤ finish
      · have kept : (Call.recordInterval start finish).keep samples =
            (finish - start) :: samples := if_pos forwards
        rw [perform_forwards _ forwards, kept]
        exact record_ofSamples positive bucketCount samples (finish - start)
      · have kept : (Call.recordInterval start finish).keep samples = samples :=
          if_neg forwards
        rw [perform_backwards _ (UInt64.not_le.mp forwards), kept]
  | reset => exact reset_ofSamples bucketCount width samples

/-- After any calls a histogram stands for the samples accepted since the last reset. -/
theorem performAll_fresh
    {width : UInt64}
    (positive : 0 < width)
    (bucketCount : Nat)
    (calls : List Call) :
    (fresh bucketCount width).performAll calls =
      ofSamples bucketCount width (Call.accepted calls) := by
  unfold performAll Call.accepted
  induction calls using List.reverseRecOn with
  | nil => exact fresh_eq_ofSamples bucketCount width
  | append_singleton earlier call hypothesis =>
      rw [List.foldl_append, List.foldl_append, hypothesis]
      exact perform_ofSamples positive bucketCount _ call

/-! ## Counting up to an edge -/

/-- The sample lies below an edge. -/
def below (edge : Nat) (sample : UInt64) : Bool := decide (sample.toNat < edge)

/-- What lies below the upper edge of a bucket lies below its lower edge or inside it. -/
theorem countP_below_succ
    (width : UInt64)
    (index : Nat)
    (samples : List UInt64) :
    samples.countP (below ((index + 1) * width.toNat)) =
      samples.countP (below (index * width.toNat)) + samples.countP (covers width index) := by
  induction samples with
  | nil => rfl
  | cons sample samples hypothesis =>
      rw [List.countP_cons, List.countP_cons, List.countP_cons, hypothesis]
      unfold below covers
      simp only [decide_eq_true_iff, Nat.add_one_mul]
      split <;> split <;> split <;> omega

/-- What lies in the first buckets is what lies below the last of their edges. -/
theorem sum_countP_covers
    (width : UInt64)
    (bucketCount : Nat)
    (samples : List UInt64) :
    ((List.range bucketCount).map fun index => samples.countP (covers width index)).sum =
      samples.countP (below (bucketCount * width.toNat)) := by
  induction bucketCount with
  | zero =>
      rw [Nat.zero_mul, List.range_zero, List.map_nil, List.sum_nil, eq_comm,
        List.countP_eq_zero]
      intro sample _
      simp [below]
  | succ bucketCount hypothesis =>
      rw [List.range_succ, List.map_append, List.sum_append, hypothesis, countP_below_succ,
        List.map_singleton, List.sum_singleton]

theorem countP_below_add_countP_reaches (edge : Nat) (samples : List UInt64) :
    samples.countP (below edge) + samples.countP (reaches edge) = samples.length := by
  have complement (sample : UInt64) : reaches edge sample = !below edge sample := by
    rw [reaches, below, ← decide_not]
    congr 1
    rw [Nat.not_lt]
  rw [List.length_eq_countP_add_countP (below edge)]
  congr 1
  apply List.countP_congr
  intro sample _
  rw [complement]
  simp

theorem sum_map_ofNat (counts : List Nat) :
    (counts.map UInt64.ofNat).sum = UInt64.ofNat counts.sum := by
  induction counts with
  | nil => rfl
  | cons count counts hypothesis =>
      rw [List.map_cons, List.sum_cons, List.sum_cons, hypothesis, UInt64.ofNat_add]

/-- However many samples there are, the counters of the buckets and of the overflows add up to
the count as words do. -/
theorem sum_buckets_ofSamples
    (bucketCount : Nat)
    (width : UInt64)
    (samples : List UInt64) :
    (ofSamples bucketCount width samples).buckets.toList.sum +
        (ofSamples bucketCount width samples).overflows =
      (ofSamples bucketCount width samples).count := by
  have counters : (bucketsOf bucketCount width samples).toList =
      ((List.range bucketCount).map fun index =>
        samples.countP (covers width index)).map UInt64.ofNat := by
    rw [bucketsOf, List.toList_toArray, List.map_map]
    rfl
  simp only [ofSamples]
  rw [counters, sum_map_ofNat, sum_countP_covers, ← UInt64.ofNat_add,
    countP_below_add_countP_reaches]

/-! ## As many samples as words can count -/

section Countable

variable {samples : List UInt64}

theorem toNat_ofNat_countP
    (few : samples.length < 2 ^ 64)
    (predicate : UInt64 -> Bool) :
    (UInt64.ofNat (samples.countP predicate)).toNat = samples.countP predicate :=
  UInt64.toNat_ofNat_of_lt' (Nat.lt_of_le_of_lt List.countP_le_length few)

theorem map_toNat_bucketsOf
    (few : samples.length < 2 ^ 64)
    (bucketCount : Nat)
    (width : UInt64) :
    (bucketsOf bucketCount width samples).toList.map UInt64.toNat =
      (List.range bucketCount).map fun index => samples.countP (covers width index) := by
  rw [bucketsOf, List.toList_toArray, List.map_map]
  apply List.map_congr_left
  intro index _
  exact toNat_ofNat_countP few (covers width index)

/-- Every sample is counted once, in a bucket or as an overflow. -/
theorem sum_bucketsOf_add_overflows
    (few : samples.length < 2 ^ 64)
    (bucketCount : Nat)
    (width : UInt64) :
    ((ofSamples bucketCount width samples).buckets.toList.map UInt64.toNat).sum +
        (ofSamples bucketCount width samples).overflows.toNat =
      samples.length := by
  simp only [ofSamples]
  rw [map_toNat_bucketsOf few, sum_countP_covers, toNat_ofNat_countP few,
    countP_below_add_countP_reaches]

/-- With no more samples than can be counted, a value is available exactly when there is
a sample. -/
theorem whenSampled_ofSamples
    (few : samples.length < 2 ^ 64)
    (bucketCount : Nat)
    (width value : UInt64) :
    (ofSamples bucketCount width samples).whenSampled value =
      if samples = [] then none else some value := by
  have counted : (UInt64.ofNat samples.length).toNat = samples.length :=
    UInt64.toNat_ofNat_of_lt' few
  unfold whenSampled
  simp only [ofSamples, UInt64.lt_iff_toNat_lt, counted, UInt64.toNat_zero,
    List.length_pos_iff, ne_eq, ite_not]

theorem summary_least
    (few : samples.length < 2 ^ 64)
    (bucketCount : Nat)
    (width : UInt64) :
    (ofSamples bucketCount width samples).summary.least = samples.min? := by
  change (ofSamples bucketCount width samples).whenSampled
    (samples.min?.getD (UInt64.ofNat Word.limit)) = _
  rw [whenSampled_ofSamples few]
  cases samples with
  | nil => rfl
  | cons sample samples => rw [if_neg (List.cons_ne_nil _ _), List.min?_cons, Option.getD_some]

theorem summary_greatest
    (few : samples.length < 2 ^ 64)
    (bucketCount : Nat)
    (width : UInt64) :
    (ofSamples bucketCount width samples).summary.greatest = samples.max? := by
  change (ofSamples bucketCount width samples).whenSampled (samples.max?.getD 0) = _
  rw [whenSampled_ofSamples few]
  cases samples with
  | nil => rfl
  | cons sample samples => rw [if_neg (List.cons_ne_nil _ _), List.max?_cons, Option.getD_some]

end Countable

/-! ## What the counters say -/

/-- A geometry with buckets of some width has storage up to a certain size. -/
theorem create_of_allocatable
    {bucketCount width : UInt64}
    (hasBuckets : 0 < bucketCount)
    (hasWidth : 0 < width)
    (allocatable : bucketCount < unallocatable) :
    create ⟨bucketCount, width⟩ = .ok (fresh bucketCount.toNat width) := by
  have sensible : ¬ (bucketCount = 0 ∨ width = 0) := by
    rintro (rfl | rfl)
    · exact UInt64.lt_irrefl 0 hasBuckets
    · exact UInt64.lt_irrefl 0 hasWidth
  unfold create
  rw [if_neg sensible, if_neg (UInt64.not_le.mpr allocatable)]

/-- A histogram that was made has buckets of some width, and no samples. -/
theorem of_create
    {bucketCount width : UInt64}
    {empty : Histogram}
    (created : create ⟨bucketCount, width⟩ = .ok empty) :
    0 < width ∧ empty = fresh bucketCount.toNat width := by
  unfold create at created
  split at created
  · contradiction
  · next sensible =>
    split at created
    · contradiction
    · exact ⟨UInt64.pos_iff_ne_zero.mpr (not_or.mp sensible).2, (Except.ok.inj created).symm⟩

/-- Whatever a new histogram has been asked to do, its counters are those of the samples
accepted since the last reset: it counts them, adds them up modulo `2 ^ 64`, counts each
in its bucket or as an overflow, and knows the least and the greatest of them. An
interval that runs backwards is refused and changes nothing, the geometry stays as it
is, and other calls with the same samples in another order lead to the same histogram. -/
theorem counters_eq_accepted_samples
    (bucketCount width : UInt64)
    (hasBuckets : 0 < bucketCount)
    (hasWidth : 0 < width)
    (allocatable : bucketCount < unallocatable)
    (calls : List Call)
    (few : (Call.accepted calls).length < 2 ^ 64) :
    exists empty, create ⟨bucketCount, width⟩ = .ok empty ∧
      let histogram := empty.performAll calls
      let samples := Call.accepted calls
      (forall start finish, finish < start ->
        histogram.perform (.recordInterval start finish) =
          (some (.negativeSample start finish), histogram)) ∧
      histogram.width = width ∧
      histogram.buckets.size = bucketCount.toNat ∧
      histogram.count.toNat = samples.length ∧
      histogram.sum.toNat = (samples.map UInt64.toNat).sum % 2 ^ 64 ∧
      (forall index, (inside : index < histogram.buckets.size) ->
        histogram.buckets[index].toNat =
          samples.countP fun sample =>
            index * width.toNat ≤ sample.toNat ∧
              sample.toNat < (index + 1) * width.toNat) ∧
      histogram.overflows.toNat =
        samples.countP (fun sample => bucketCount.toNat * width.toNat ≤ sample.toNat) ∧
      (histogram.buckets.toList.map UInt64.toNat).sum + histogram.overflows.toNat =
        histogram.count.toNat ∧
      histogram.summary.least = samples.min? ∧
      histogram.summary.greatest = samples.max? ∧
      forall others, (Call.accepted others).Perm samples ->
        empty.performAll others = histogram := by
  refine ⟨_, create_of_allocatable hasBuckets hasWidth allocatable, ?_⟩
  intro histogram samples
  have stands : histogram = ofSamples bucketCount.toNat width samples :=
    performAll_fresh hasWidth bucketCount.toNat calls
  have counted : histogram.count.toNat = samples.length := by
    rw [stands]
    exact UInt64.toNat_ofNat_of_lt' few
  refine ⟨fun _ _ => perform_backwards histogram, ?_, ?_, counted, ?_, ?_, ?_, ?_, ?_, ?_, ?_⟩
  · rw [stands, ofSamples]
  · rw [stands]
    exact size_bucketsOf bucketCount.toNat width samples
  · rw [stands]
    exact UInt64.toNat_ofNat'
  · rw [stands]
    intro index inside
    exact (congrArg UInt64.toNat (getElem_bucketsOf inside)).trans
      (toNat_ofNat_countP few (covers width index))
  · rw [stands]
    exact toNat_ofNat_countP few (reaches (bucketCount.toNat * width.toNat))
  · rw [counted, stands]
    exact sum_bucketsOf_add_overflows few bucketCount.toNat width
  · rw [stands]
    exact summary_least few bucketCount.toNat width
  · rw [stands]
    exact summary_greatest few bucketCount.toNat width
  · intro others same
    rw [stands, performAll_fresh hasWidth]
    exact ofSamples_eq_of_perm bucketCount.toNat width same

/-- The second of two buckets reaches beyond the largest word. Before the reset a sample
was recorded, after it one interval is refused, and the sum does not fit. -/
theorem counters_of_widest_buckets :
    let calls : List Call :=
      [.record 7, .reset, .record 18446744073709551615, .recordInterval 3 10,
        .recordInterval 10 3, .record 0]
    (0 : UInt64) < 2 ∧ (0 : UInt64) < 9223372036854775809 ∧ (2 : UInt64) < unallocatable ∧
      (Call.accepted calls).length < 2 ^ 64 ∧
      Call.accepted calls = [0, 7, 18446744073709551615] ∧
      exists empty, create ⟨2, 9223372036854775809⟩ = .ok empty ∧
        (empty.performAll calls).count.toNat = 3 ∧
        (empty.performAll calls).sum.toNat = 6 ∧
        (empty.performAll calls).overflows.toNat = 0 ∧
        (empty.performAll calls).summary.least = some 0 ∧
        (empty.performAll calls).summary.greatest = some 18446744073709551615 := by
  intro calls
  have accepted : Call.accepted calls = [0, 7, 18446744073709551615] := by decide
  have few : (Call.accepted calls).length < 2 ^ 64 := by decide
  obtain ⟨empty, created, _, _, _, count, sum, _, overflows, _, least, greatest, _⟩ :=
    counters_eq_accepted_samples 2 9223372036854775809 (by decide) (by decide) (by decide)
      calls few
  refine ⟨by decide, by decide, by decide, few, accepted, empty, created, ?_, ?_, ?_, ?_, ?_⟩
  · rw [count, accepted]
    rfl
  · rw [sum, accepted]
    rfl
  · rw [overflows, accepted]
    rfl
  · rw [least, accepted]
    rfl
  · rw [greatest, accepted]
    rfl

end Histogram
end LatencyMeter

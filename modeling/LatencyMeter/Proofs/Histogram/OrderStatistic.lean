import LatencyMeter.Proofs.Histogram.Samples

/-!
# Percentiles and the sorted samples

A percentile is found by adding up counters of buckets until the sum exceeds a rank.
Up to the edge of a bucket the sum is the count of samples below that edge, and in the
sorted samples that count says which ranks lie below the edge. So the bucket at which
the search stops is the bucket of the sample of that rank, and the search finds nothing
when there is no such sample or when it lies beyond the last bucket.
-/

namespace LatencyMeter
namespace Histogram

/-! ## Ranks among sorted samples -/

/-- No more samples lie below a lower edge. -/
theorem countP_below_mono
    {lower upper : Nat}
    (ordered : lower ≤ upper)
    (samples : List UInt64) :
    samples.countP (below lower) ≤ samples.countP (below upper) := by
  apply List.countP_mono_left
  intro sample _ isBelow
  unfold below at isBelow ⊢
  rw [decide_eq_true_iff] at isBelow ⊢
  exact Nat.lt_of_lt_of_le isBelow ordered

/-- Among sorted samples those below an edge come first, so the sample of a rank is below
an edge exactly if more samples than that rank are. -/
theorem lt_edge_iff_rank_lt
    {sorted : List UInt64}
    (ordered : sorted.Pairwise (· ≤ ·))
    {rank : Nat}
    {sample : UInt64}
    (ranked : sorted[rank]? = some sample)
    (edge : Nat) :
    sample.toNat < edge ↔ rank < sorted.countP (below edge) := by
  induction sorted generalizing rank with
  | nil => simp at ranked
  | cons least rest hypothesis =>
      obtain ⟨least_le, restOrdered⟩ := List.pairwise_cons.mp ordered
      by_cases leastBelow : least.toNat < edge
      · rw [List.countP_cons_of_pos (by simpa [below] using leastBelow)]
        cases rank with
        | zero =>
            obtain rfl : least = sample := by simpa using ranked
            simp [leastBelow]
        | succ rank =>
            rw [List.getElem?_cons_succ] at ranked
            rw [hypothesis restOrdered ranked]
            omega
      · -- If not even the least sample is below the edge, none is.
        have noneBelow : (least :: rest).countP (below edge) = 0 := by
          apply List.countP_eq_zero.mpr
          intro other member
          have least_le_other : least ≤ other := by
            rcases List.mem_cons.mp member with rfl | later
            · exact UInt64.le_refl other
            · exact least_le other later
          rw [UInt64.le_iff_toNat_le] at least_le_other
          simp only [below, decide_eq_true_iff]
          omega
        have least_le_sample : least ≤ sample := by
          rcases List.mem_cons.mp (List.mem_of_getElem? ranked) with rfl | later
          · exact UInt64.le_refl sample
          · exact least_le sample later
        rw [UInt64.le_iff_toNat_le] at least_le_sample
        rw [noneBelow]
        omega

/-! ## The search for a rank -/

/-- What the search for a rank should find: the upper edge of a bucket below which more
samples lie than the rank while at its lower edge no more do, or nothing if no more
samples than the rank lie below the last edge. -/
def Locates
    (width : UInt64)
    (samples : List UInt64)
    (bucketCount : Nat)
    (rank : UInt64) : Option UInt64 -> Prop
  | some edge =>
      exists index, index < bucketCount ∧
        edge = UInt64.ofNat ((index + 1) * width.toNat) ∧
        samples.countP (below (index * width.toNat)) ≤ rank.toNat ∧
        rank.toNat < samples.countP (below ((index + 1) * width.toNat))
  | none => samples.countP (below (bucketCount * width.toNat)) ≤ rank.toNat

/-- The counters of consecutive buckets. -/
def counters (width : UInt64) (samples : List UInt64) (first count : Nat) : List UInt64 :=
  (List.range' first count).map fun index => UInt64.ofNat (samples.countP (covers width index))

section Search

variable {width : UInt64} {samples : List UInt64}

/-- At each bucket the search compares the rank with the samples below its upper edge. -/
theorem edgeFrom_counters_succ
    (few : samples.length < 2 ^ 64)
    (rank : UInt64)
    (first count : Nat) :
    edgeFrom width rank (UInt64.ofNat first)
        (UInt64.ofNat (samples.countP (below (first * width.toNat))))
        (counters width samples first (count + 1)) =
      if rank.toNat < samples.countP (below ((first + 1) * width.toNat)) then
        some (UInt64.ofNat ((first + 1) * width.toNat))
      else
        edgeFrom width rank (UInt64.ofNat (first + 1))
          (UInt64.ofNat (samples.countP (below ((first + 1) * width.toNat))))
          (counters width samples (first + 1) count) := by
  have counted :
      UInt64.ofNat (samples.countP (below (first * width.toNat))) +
          UInt64.ofNat (samples.countP (covers width first)) =
        UInt64.ofNat (samples.countP (below ((first + 1) * width.toNat))) := by
    rw [countP_below_succ, UInt64.ofNat_add]
  have edge : (UInt64.ofNat first + 1) * width = UInt64.ofNat ((first + 1) * width.toNat) := by
    rw [UInt64.ofNat_mul, UInt64.ofNat_add, UInt64.ofNat_toNat]
    rfl
  have next : UInt64.ofNat first + 1 = UInt64.ofNat (first + 1) :=
    (UInt64.ofNat_add first 1).symm
  have exceeds :
      rank < UInt64.ofNat (samples.countP (below ((first + 1) * width.toNat))) ↔
        rank.toNat < samples.countP (below ((first + 1) * width.toNat)) := by
    rw [UInt64.lt_iff_toNat_lt, toNat_ofNat_countP few]
  have split : counters width samples first (count + 1) =
      UInt64.ofNat (samples.countP (covers width first)) ::
        counters width samples (first + 1) count := rfl
  rw [split, edgeFrom, counted, edge, next]
  simp only [exceeds]

/-- The search, begun at a bucket, finds what it should if the rank is not reached before
that bucket. -/
theorem locates_edgeFrom
    (few : samples.length < 2 ^ 64)
    (rank : UInt64)
    (first count : Nat)
    (unreached : samples.countP (below (first * width.toNat)) ≤ rank.toNat) :
    Locates width samples (first + count) rank
      (edgeFrom width rank (UInt64.ofNat first)
        (UInt64.ofNat (samples.countP (below (first * width.toNat))))
        (counters width samples first count)) := by
  induction count generalizing first with
  | zero => exact unreached
  | succ count hypothesis =>
      rw [edgeFrom_counters_succ few]
      split
      · next exceeded => exact ⟨first, by omega, rfl, unreached, exceeded⟩
      · next within =>
        have continued := hypothesis (first + 1) (Nat.not_lt.mp within)
        rwa [Nat.add_right_comm first 1 count] at continued

/-- The histogram of some samples finds for each rank what it should. -/
theorem locates_edge?
    (few : samples.length < 2 ^ 64)
    (bucketCount : Nat)
    (rank : UInt64) :
    Locates width samples bucketCount rank
      ((ofSamples bucketCount width samples).edge? rank) := by
  have noneBelow : samples.countP (below (0 * width.toNat)) = 0 := by
    rw [Nat.zero_mul, List.countP_eq_zero]
    intro sample _
    simp [below]
  have located := locates_edgeFrom few rank 0 bucketCount
    (Nat.le_trans (Nat.le_of_eq noneBelow) (Nat.zero_le rank.toNat))
  rw [noneBelow, Nat.zero_add] at located
  have listed : (ofSamples bucketCount width samples).buckets.toList =
      counters width samples 0 bucketCount := by
    rw [counters, ← List.range_eq_range']
    rfl
  unfold edge?
  rw [listed]
  exact located

end Search

/-! ## What is found -/

section Found

variable {width : UInt64} {samples : List UInt64} {bucketCount : Nat}

/-- Where the last edge is a word, every edge that is found is one. -/
theorem Locates.toNat_edge
    (fits : bucketCount * width.toNat < 2 ^ 64)
    {rank edge : UInt64}
    (located : Locates width samples bucketCount rank (some edge)) :
    exists index,
      edge.toNat = (index + 1) * width.toNat ∧
        samples.countP (below (index * width.toNat)) ≤ rank.toNat ∧
        rank.toNat < samples.countP (below ((index + 1) * width.toNat)) := by
  obtain ⟨index, inside, rfl, unreached, exceeded⟩ := located
  have within : (index + 1) * width.toNat ≤ bucketCount * width.toNat :=
    Nat.mul_le_mul_right width.toNat inside
  exact ⟨index, UInt64.toNat_ofNat_of_lt' (Nat.lt_of_le_of_lt within fits), unreached,
    exceeded⟩

/-- Something is found for a rank exactly if more samples than the rank lie below the
last edge. -/
theorem Locates.isSome_iff
    {rank : UInt64}
    {edge? : Option UInt64}
    (located : Locates width samples bucketCount rank edge?) :
    edge?.isSome = true ↔
      rank.toNat < samples.countP (below (bucketCount * width.toNat)) := by
  cases edge? with
  | none => exact iff_of_false Bool.false_ne_true (Nat.not_lt.mpr located)
  | some edge =>
      obtain ⟨index, inside, _, _, exceeded⟩ := located
      refine iff_of_true rfl (Nat.lt_of_lt_of_le exceeded ?_)
      exact countP_below_mono (Nat.mul_le_mul_right width.toNat inside) samples

/-- A higher rank is found at no lower an edge, and where there is something to be found
there is something at every lower rank. -/
theorem Locates.mono
    (fits : bucketCount * width.toNat < 2 ^ 64)
    {lower upper : UInt64}
    (ordered : lower ≤ upper)
    {low? : Option UInt64}
    {high : UInt64}
    (atLower : Locates width samples bucketCount lower low?)
    (atUpper : Locates width samples bucketCount upper (some high)) :
    exists low, low? = some low ∧ low ≤ high := by
  rw [UInt64.le_iff_toNat_le] at ordered
  have found : low?.isSome = true :=
    atLower.isSome_iff.mpr (Nat.lt_of_le_of_lt ordered (atUpper.isSome_iff.mp rfl))
  obtain ⟨low, rfl⟩ := Option.isSome_iff_exists.mp found
  obtain ⟨lowIndex, lowEdge, lowUnreached, _⟩ := atLower.toNat_edge fits
  obtain ⟨highIndex, highEdge, _, highExceeded⟩ := atUpper.toNat_edge fits
  refine ⟨low, rfl, ?_⟩
  rw [UInt64.le_iff_toNat_le, lowEdge, highEdge]
  apply Nat.mul_le_mul_right
  by_contra reversed
  -- Otherwise the lower rank would have been exceeded at an earlier bucket.
  have earlier : (highIndex + 1) * width.toNat ≤ lowIndex * width.toNat :=
    Nat.mul_le_mul_right width.toNat (by omega)
  have more := countP_below_mono earlier samples
  omega

/-- The edge found for a rank is the upper edge of the bucket of the sample of that rank,
and there is none exactly if that sample lies beyond the last bucket. -/
theorem Locates.of_ranked
    (fits : bucketCount * width.toNat < 2 ^ 64)
    {sorted : List UInt64}
    (same : sorted.Perm samples)
    (ordered : sorted.Pairwise (· ≤ ·))
    {rank sample : UInt64}
    (ranked : sorted[rank.toNat]? = some sample)
    {edge? : Option UInt64}
    (located : Locates width samples bucketCount rank edge?) :
    if sample.toNat < bucketCount * width.toNat then
      exists edge, edge? = some edge ∧ width.toNat ∣ edge.toNat ∧
        edge.toNat - width.toNat ≤ sample.toNat ∧ sample.toNat < edge.toNat
    else edge? = none := by
  have isBelow (edge : Nat) :
      sample.toNat < edge ↔ rank.toNat < samples.countP (below edge) := by
    rw [← same.countP_eq]
    exact lt_edge_iff_rank_lt ordered ranked edge
  have found := located.isSome_iff
  rw [← isBelow] at found
  split
  · next inRange =>
    obtain ⟨edge, rfl⟩ := Option.isSome_iff_exists.mp (found.mpr inRange)
    obtain ⟨index, upperEdge, unreached, exceeded⟩ := located.toNat_edge fits
    have notBelow : ¬ sample.toNat < index * width.toNat := by
      rw [isBelow]
      exact Nat.not_lt.mpr unreached
    refine ⟨edge, rfl, ?_, ?_, ?_⟩
    · rw [upperEdge]
      exact Nat.dvd_mul_left width.toNat (index + 1)
    · rw [upperEdge, Nat.add_one_mul, Nat.add_sub_cancel]
      exact Nat.not_lt.mp notBelow
    · rw [upperEdge, isBelow]
      exact exceeded
  · next beyond =>
    cases edge? with
    | none => rfl
    | some edge => exact absurd (found.mp rfl) beyond

end Found

/-- Whatever a histogram whose last edge is a word has been asked to do, a percentile is
looked up by its rank. For the rank of a sample the upper edge of the bucket of that
sample is found, counting from zero among the sorted samples, or nothing if the sample
lies beyond the last bucket; for a higher rank than there are samples nothing is found.
So a higher rank is never found at a lower edge, and nothing ranks above every edge. -/
theorem edge_of_rank_bounds_sample
    (bucketCount width : UInt64)
    (hasBuckets : 0 < bucketCount)
    (hasWidth : 0 < width)
    (allocatable : bucketCount < unallocatable)
    (fits : bucketCount.toNat * width.toNat < 2 ^ 64)
    (calls : List Call)
    (few : (Call.accepted calls).length < 2 ^ 64)
    (sorted : List UInt64)
    (same : sorted.Perm (Call.accepted calls))
    (ordered : sorted.Pairwise (· ≤ ·)) :
    exists empty, create ⟨bucketCount, width⟩ = .ok empty ∧
      let histogram := empty.performAll calls
      (forall percent,
        histogram.percentile percent = histogram.edge? (histogram.rank percent)) ∧
      (forall rank, rank < histogram.count ->
        exists sample, sorted[rank.toNat]? = some sample ∧
          if sample.toNat < bucketCount.toNat * width.toNat then
            exists edge, histogram.edge? rank = some edge ∧ width.toNat ∣ edge.toNat ∧
              edge.toNat - width.toNat ≤ sample.toNat ∧ sample.toNat < edge.toNat
          else histogram.edge? rank = none) ∧
      (forall rank, histogram.count ≤ rank -> histogram.edge? rank = none) ∧
      forall lower upper, lower ≤ upper ->
        forall high, histogram.edge? upper = some high ->
          exists low, histogram.edge? lower = some low ∧ low ≤ high := by
  refine ⟨_, create_of_allocatable hasBuckets hasWidth allocatable, ?_⟩
  intro histogram
  have stands : histogram = ofSamples bucketCount.toNat width (Call.accepted calls) :=
    performAll_fresh hasWidth bucketCount.toNat calls
  have counted : histogram.count.toNat = (Call.accepted calls).length := by
    rw [stands]
    exact UInt64.toNat_ofNat_of_lt' few
  have located (rank : UInt64) :
      Locates width (Call.accepted calls) bucketCount.toNat rank (histogram.edge? rank) := by
    rw [stands]
    exact locates_edge? few bucketCount.toNat rank
  refine ⟨fun _ => rfl, ?_, ?_, ?_⟩
  · intro rank isRank
    rw [UInt64.lt_iff_toNat_lt, counted, ← same.length_eq] at isRank
    have ranked := List.getElem?_eq_getElem isRank
    exact ⟨_, ranked, (located rank).of_ranked fits same ordered ranked⟩
  · intro rank tooHigh
    rw [UInt64.le_iff_toNat_le, counted] at tooHigh
    have counts := List.countP_le_length
      (p := below (bucketCount.toNat * width.toNat)) (l := Call.accepted calls)
    rw [← Option.not_isSome_iff_eq_none, (located rank).isSome_iff]
    omega
  · intro lower upper ranks high found
    have atUpper := located upper
    rw [found] at atUpper
    exact Locates.mono fits ranks (located lower) atUpper

/-- Of five samples the third lies in the third bucket, and the last beyond all buckets. -/
theorem edge_of_rank_of_five_samples :
    let calls : List Call :=
      [.record 50, .recordInterval 300 450, .record 1500, .record 250, .record 950]
    let sorted : List UInt64 := [50, 150, 250, 950, 1500]
    (0 : UInt64) < 10 ∧ (0 : UInt64) < 100 ∧ (10 : UInt64) < unallocatable ∧
      (10 : UInt64).toNat * (100 : UInt64).toNat < 2 ^ 64 ∧
      (Call.accepted calls).length < 2 ^ 64 ∧
      sorted.Perm (Call.accepted calls) ∧ sorted.Pairwise (· ≤ ·) ∧
      exists empty, create ⟨10, 100⟩ = .ok empty ∧
        (exists edge, (empty.performAll calls).edge? 2 = some edge ∧
          edge.toNat - 100 ≤ 250 ∧ 250 < edge.toNat) ∧
        (empty.performAll calls).edge? 4 = none ∧
        (empty.performAll calls).edge? 5 = none := by
  intro calls sorted
  have few : (Call.accepted calls).length < 2 ^ 64 := by decide
  have same : sorted.Perm (Call.accepted calls) := by decide
  have ordered : sorted.Pairwise (· ≤ ·) := by decide
  obtain ⟨empty, created, _, inRange, beyond, _⟩ :=
    edge_of_rank_bounds_sample 10 100 (by decide) (by decide) (by decide) (by decide)
      calls few sorted same ordered
  obtain rfl : fresh 10 100 = empty := Except.ok.inj created
  refine ⟨by decide, by decide, by decide, by decide, few, same, ordered, _, created,
    ?_, ?_, ?_⟩
  · obtain ⟨sample, ranked, found⟩ := inRange 2 (by decide +kernel)
    obtain rfl : 250 = sample := Option.some.inj ranked
    obtain ⟨edge, isEdge, _, aboveLower, belowUpper⟩ := found
    exact ⟨edge, isEdge, aboveLower, belowUpper⟩
  · obtain ⟨sample, ranked, found⟩ := inRange 4 (by decide +kernel)
    obtain rfl : 1500 = sample := Option.some.inj ranked
    exact found
  · exact beyond 5 (by decide +kernel)

end Histogram
end LatencyMeter

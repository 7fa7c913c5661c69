import LatencyMeter.Jitter
import LatencyMeter.Proofs.Histogram.Samples
import LatencyMeter.Proofs.Sending.Alone

/-!
# What a jitter loop measures

A jitter loop that ends has read the clock three times and then in pairs. The intervals of
these pairs are what it adds to the histogram, and their extremes are what it keeps. What
it reports depends on one thing more: whether the histogram holds any sample at all, be it
of this loop or of an earlier one. So the reported extremes are those of the loop unless
the histogram brings samples with it and the loop measures nothing.
-/

namespace LatencyMeter
namespace Jitter

/-- The intervals of consecutive pairs of clock readings, zero for a clock that steps back. -/
def intervals (clock : Nat -> UInt64) (first count : Nat) : List UInt64 :=
  (List.range' first count 2).map fun reading =>
    Word.minus (clock (reading + 1)) (clock reading)

@[simp] theorem length_intervals (clock : Nat -> UInt64) (first count : Nat) :
    (intervals clock first count).length = count := by
  rw [intervals, List.length_map, List.length_range']

theorem intervals_succ (clock : Nat -> UInt64) (first count : Nat) :
    intervals clock first (count + 1) =
      Word.minus (clock (first + 1)) (clock first) :: intervals clock (first + 2) count := by
  rw [intervals, List.range'_succ, List.map_cons]
  rfl

/-! ## Observing intervals -/

/-- From no interval on, a loop keeps the extremes of those that it observes. -/
theorem foldl_observe (histogram : Histogram) (observed : List UInt64) :
    observed.foldl Progress.observe ⟨histogram, UInt64.ofNat Word.limit, 0⟩ =
      ⟨observed.foldl Histogram.record histogram,
        observed.min?.getD (UInt64.ofNat Word.limit), observed.max?.getD 0⟩ := by
  induction observed using List.reverseRecOn with
  | nil => rfl
  | append_singleton earlier interval hypothesis =>
      -- The extremes do not depend on the order, so the latest interval may come first.
      have moved : (earlier ++ [interval]).Perm (interval :: earlier) :=
        List.perm_append_singleton interval earlier
      rw [List.foldl_append, List.foldl_append, hypothesis, Word.min?_eq_of_perm moved,
        Word.max?_eq_of_perm moved, Histogram.least_cons, Histogram.greatest_cons]
      rfl

theorem count_foldl_record (histogram : Histogram) (samples : List UInt64) :
    (samples.foldl Histogram.record histogram).count =
      histogram.count + UInt64.ofNat samples.length := by
  induction samples generalizing histogram with
  | nil => exact (UInt64.add_zero _).symm
  | cons sample samples hypothesis =>
      rw [List.foldl_cons, hypothesis, Histogram.count_record, List.length_cons,
        UInt64.add_assoc, Nat.add_comm, UInt64.ofNat_add]
      rfl

/-! ## Runs of the loop -/

/-- The station after a pair of readings. -/
def afterPair (station : Station) : Station :=
  (station.afterReading .sample).afterReading .sample

/-- While time is left, the loop measures one interval and goes on. -/
theorem run_intervalsFrom_succ
    {duration elapsed : UInt64}
    (left : elapsed < duration)
    (start : UInt64)
    (steps : Nat)
    (progress : Progress)
    (station : Station) :
    station.run (intervalsFrom duration start (steps + 1) elapsed progress) =
      (afterPair station).run
        (intervalsFrom duration start steps
          (Word.minus (station.clock (station.reads + 1)) start)
          (progress.observe
            (Word.minus (station.clock (station.reads + 1)) (station.clock station.reads)))) := by
  rw [intervalsFrom, if_pos left, Station.run_readClock_bind, Station.run_readClock_bind]
  rfl

/-- A loop that ends has observed the intervals of some pairs of readings, of none exactly
if no time was left for it. -/
theorem intervalsFrom_ends
    (duration start : UInt64)
    (steps : Nat)
    (elapsed : UInt64)
    (progress : Progress)
    (station : Station)
    (ends : (station.run (intervalsFrom duration start steps elapsed progress)).1.isSome) :
    exists count,
      let run := station.run (intervalsFrom duration start steps elapsed progress)
      run.1 =
          some ((intervals station.clock station.reads count).foldl Progress.observe progress) ∧
        run.2.reads = station.reads + 2 * count ∧
        (count = 0 ↔ ¬ elapsed < duration) := by
  induction steps generalizing elapsed progress station with
  | zero =>
      unfold intervalsFrom at ends ⊢
      by_cases left : elapsed < duration
      · rw [if_pos left] at ends
        contradiction
      · rw [if_neg left]
        exact ⟨0, rfl, rfl, iff_of_true rfl left⟩
  | succ steps hypothesis =>
      by_cases left : elapsed < duration
      · rw [run_intervalsFrom_succ left] at ends ⊢
        obtain ⟨count, result, reads, _⟩ := hypothesis _ _ _ ends
        refine ⟨count + 1, ?_, ?_, iff_of_false (Nat.succ_ne_zero count) (not_not_intro left)⟩
        · rw [result, intervals_succ, List.foldl_cons]
          rfl
        · rw [reads]
          change station.reads + 2 + 2 * count = _
          omega
      · unfold intervalsFrom
        rw [if_neg left]
        exact ⟨0, rfl, rfl, iff_of_true rfl left⟩

/-- What a loop reports when its histogram has become `final` by the intervals of the loop. -/
def statsOf (final : Histogram) (observed : List UInt64) : JitterStats where
  least := final.whenSampled (observed.min?.getD (UInt64.ofNat Word.limit))
  greatest := final.whenSampled (observed.max?.getD 0)

/-- A run that ends has read the clock three times and then in pairs, of which there are none
exactly if the duration is zero. -/
theorem run_ends
    (steps : Nat)
    (duration : Duration)
    (histogram : Histogram)
    (station : Station)
    (ends : (station.run (run steps duration histogram)).1.isSome) :
    exists count,
      let observed := intervals station.clock (station.reads + 3) count
      let final := observed.foldl Histogram.record histogram
      (station.run (run steps duration histogram)).1 = some (statsOf final observed, final) ∧
        (station.run (run steps duration histogram)).2.reads = station.reads + 3 + 2 * count ∧
        (count = 0 ↔ duration.clockNanos = 0) := by
  let warm := ((station.afterReading .schedule).afterReading .schedule).afterReading .schedule
  let loop :=
    intervalsFrom duration.clockNanos (station.clock station.reads) steps 0
      ⟨histogram, UInt64.ofNat Word.limit, 0⟩
  have goesOn : station.run (run steps duration histogram) =
      warm.run (loop >>= fun progress =>
        pure (⟨progress.histogram.whenSampled progress.least,
          progress.histogram.whenSampled progress.greatest⟩, progress.histogram)) := rfl
  rw [goesOn, Station.run, Program.run_bind] at ends ⊢
  cases looped : warm.run loop with
  | mk result after =>
      rw [Station.run] at looped
      rw [looped] at ends ⊢
      cases result with
      | none => contradiction
      | some progress =>
          have finishes : (warm.run loop).1.isSome := by rw [Station.run, looped]; rfl
          obtain ⟨count, observed, reads, measures⟩ := intervalsFrom_ends _ _ _ _ _ _ finishes
          rw [Station.run, looped] at observed reads
          obtain rfl := Option.some.inj observed
          refine ⟨count, ?_, reads, ?_⟩
          · rw [foldl_observe]
            rfl
          · rw [measures, UInt64.not_lt, UInt64.le_zero_iff]

/-! ## The reported extremes -/

/-- A histogram without samples lets nothing be reported. -/
theorem statsOf_of_count_eq_zero
    {final : Histogram}
    (empty : final.count = 0)
    (observed : List UInt64) :
    statsOf final observed = ⟨none, none⟩ := by
  unfold statsOf Histogram.whenSampled
  rw [empty]
  rfl

/-- A histogram with samples lets the values be reported that the loop has come to, which
without intervals are those it began with. -/
theorem statsOf_of_count_ne_zero
    {final : Histogram}
    (sampled : final.count ≠ 0)
    (observed : List UInt64) :
    statsOf final observed =
      ⟨some (observed.min?.getD (UInt64.ofNat Word.limit)), some (observed.max?.getD 0)⟩ := by
  unfold statsOf Histogram.whenSampled
  rw [if_pos (UInt64.pos_iff_ne_zero.mpr sampled), if_pos (UInt64.pos_iff_ne_zero.mpr sampled)]

/-- The extremes of intervals are reported exactly if the histogram ends up without samples
just when there are no intervals. -/
theorem statsOf_eq_extremes_iff (final : Histogram) (observed : List UInt64) :
    statsOf final observed = ⟨observed.min?, observed.max?⟩ ↔
      (final.count = 0 ↔ observed = []) := by
  by_cases sampled : final.count = 0
  · rw [statsOf_of_count_eq_zero sampled, iff_true_left sampled]
    cases observed <;> simp [List.min?_cons]
  · rw [statsOf_of_count_ne_zero sampled, iff_false_left sampled]
    cases observed <;> simp [List.min?_cons, List.max?_cons]

/-- The least of the reported values is above the greatest exactly if there are no intervals. -/
theorem le_iff_of_statsOf
    {final : Histogram}
    {observed : List UInt64}
    {least greatest : UInt64}
    (reported : statsOf final observed = ⟨some least, some greatest⟩) :
    least ≤ greatest ↔ observed ≠ [] := by
  have sampled : final.count ≠ 0 := by
    intro empty
    rw [statsOf_of_count_eq_zero empty] at reported
    exact absurd (congrArg JitterStats.least reported) nofun
  rw [statsOf_of_count_ne_zero sampled] at reported
  obtain ⟨rfl, rfl⟩ := by simpa using reported
  cases smallest : observed.min? with
  | none =>
      obtain rfl := List.min?_eq_none_iff.mp smallest
      decide
  | some least =>
      have measured : observed ≠ [] := by
        rintro rfl
        contradiction
      obtain ⟨greatest, largest⟩ :=
        Option.ne_none_iff_exists'.mp (mt List.max?_eq_none_iff.mp measured)
      rw [largest]
      exact iff_of_true (Word.min?_le_max? smallest largest) measured

/-- As long as the samples can be counted, intervals leave samples in the histogram, and
without intervals it keeps those that it had. -/
theorem count_eq_zero_iff_of_few
    {histogram : Histogram}
    {count : Nat}
    (few : histogram.count.toNat + count < 2 ^ 64) :
    histogram.count + UInt64.ofNat count = 0 ↔ histogram.count = 0 ∧ count = 0 := by
  rw [← UInt64.toNat_inj, ← UInt64.toNat_inj, Word.toNat_add_ofNat few, UInt64.toNat_zero]
  omega

/-- A jitter loop that ends reports the extremes of the intervals that it has measured,
exactly if its histogram counts no sample just when there are none. As long as the samples
can be counted, this fails only if the histogram brought samples with it and the loop
measured nothing, because its duration is zero. Then the values are reported from which
the loop began to look for extremes, the least of them above the greatest. -/
theorem extremes_reported_iff
    (steps : Nat)
    (duration : Duration)
    (histogram : Histogram)
    (station : Station)
    (ends : (station.run (run steps duration histogram)).1.isSome) :
    exists count stats final,
      let observed := intervals station.clock (station.reads + 3) count
      (station.run (run steps duration histogram)).1 = some (stats, final) ∧
        (station.run (run steps duration histogram)).2.reads = station.reads + 3 + 2 * count ∧
        (count = 0 ↔ duration.clockNanos = 0) ∧
        final = observed.foldl Histogram.record histogram ∧
        (stats = ⟨observed.min?, observed.max?⟩ ↔ (final.count = 0 ↔ count = 0)) ∧
        (histogram.count.toNat + count < 2 ^ 64 ->
          ((final.count = 0 ↔ count = 0) ↔ histogram.count = 0 ∨ count ≠ 0)) ∧
        (forall least greatest, stats = ⟨some least, some greatest⟩ ->
          (least ≤ greatest ↔ count ≠ 0)) := by
  obtain ⟨count, result, reads, measures⟩ := run_ends steps duration histogram station ends
  have nothing : intervals station.clock (station.reads + 3) count = [] ↔ count = 0 := by
    rw [← List.length_eq_zero_iff, length_intervals]
  refine ⟨count, _, _, result, reads, measures, rfl, ?_, fun few => ?_, ?_⟩
  · rw [statsOf_eq_extremes_iff, nothing]
  · rw [count_foldl_record, length_intervals, count_eq_zero_iff_of_few few]
    tauto
  · intro least greatest reported
    rw [le_iff_of_statsOf reported, ne_eq, nothing]

/-- The histogram brings a sample, and of the three intervals the second runs backwards. -/
theorem extremes_of_three_intervals :
    let clock := fun reading => [0, 3, 5, 10, 40, 50, 45, 60, 100].getD reading 100
    let station := Station.start clock (fun _ _ => none) .empty
    let histogram := (Histogram.fresh 4 10).record 7
    let result := (station.run (run 9 (Duration.ofNanos 80) histogram)).1
    result.isSome ∧
      exists final, result = some (⟨some 0, some 40⟩, final) ∧ final.count = 4 := by
  intro clock station histogram result
  have ends : result.isSome := by decide +kernel
  obtain ⟨count, stats, final, run, reads, _, recorded, extremes, _⟩ :=
    extremes_reported_iff 9 (Duration.ofNanos 80) histogram station ends
  have pairs : (station.run (Jitter.run 9 (Duration.ofNanos 80) histogram)).2.reads = 9 := by
    decide +kernel
  obtain rfl : count = 3 := by
    rw [pairs] at reads
    change 9 = 0 + 3 + 2 * count at reads
    omega
  have measured : intervals clock 3 3 = [30, 0, 40] := by decide +kernel
  have total : final.count = 4 := by
    rw [recorded]
    decide +kernel
  have stats : stats = ⟨[30, 0, 40].min?, [30, 0, 40].max?⟩ :=
    measured ▸ extremes.mpr (by rw [total]; decide)
  rw [stats] at run
  exact ⟨ends, final, run, total⟩

/-- A loop of no duration measures nothing and reports where it would have begun. -/
theorem extremes_without_intervals :
    let clock := fun reading => UInt64.ofNat (25 * reading)
    let station := Station.start clock (fun _ _ => none) .empty
    let histogram := (((Histogram.fresh 10 10).record 5).record 50).record 500
    let run := station.run (run 9 (Duration.ofNanos 0) histogram)
    run.2.reads = 3 ∧ intervals clock 3 0 = [] ∧
      run.1.map Prod.fst = some ⟨some 18446744073709551615, some 0⟩ ∧
      ¬ (18446744073709551615 : UInt64) ≤ 0 := by
  decide +kernel

end Jitter
end LatencyMeter

import LatencyMeter.Proofs.Jitter
import Mathlib.Data.Nat.Find
import Mathlib.Logic.Function.Iterate
import Mathlib.Order.Bounds.Defs

/-!
# When a jitter loop ends

The loop looks at the time that has passed since the first reading of its run when it has
measured an interval, and by the second reading of this interval. So it ends with the first
interval whose second reading is as far from the first reading of the run as the duration
asks, and goes on as long as there is none. Nothing is asked of the clock, which may step back
at any reading. The extremes that the loop keeps beside its histogram are those of the
histogram itself, if that was fresh.
-/

namespace LatencyMeter
namespace Jitter

/-- A run with some clock readings measures a number of intervals for a duration: none if the
duration is empty, and otherwise the least number from one on with which the last reading is
as far from the first one as the duration asks. -/
def EndsAfter (reading : Nat -> UInt64) (duration : Duration) (count : Nat) : Prop :=
  if duration.toNanos = 0 then
    count = 0
  else
    IsLeast
      {intervals | 1 ≤ intervals ∧
        duration.toNanos ≤ (reading (2 * intervals + 2)).toNat - (reading 0).toNat}
      count

/-! ## The extremes of a fresh histogram -/

/-- The extremes that the loop keeps are those of its histogram. -/
structure Progress.Matched (progress : Progress) : Prop where
  least : progress.least = progress.histogram.least
  greatest : progress.greatest = progress.histogram.greatest

theorem least_record (histogram : Histogram) (sample : UInt64) :
    (histogram.record sample).least =
      if sample < histogram.least then sample else histogram.least := by
  unfold Histogram.record Histogram.tally
  dsimp only
  split <;> rfl

theorem greatest_record (histogram : Histogram) (sample : UInt64) :
    (histogram.record sample).greatest =
      if histogram.greatest < sample then sample else histogram.greatest := by
  unfold Histogram.record Histogram.tally
  dsimp only
  split <;> rfl

namespace Progress.Matched

variable {progress : Progress}

theorem observe (matched : progress.Matched) (interval : UInt64) :
    (progress.observe interval).Matched where
  least := by
    change (if interval < progress.least then interval else progress.least) = _
    rw [matched.least]
    exact (least_record progress.histogram interval).symm
  greatest := by
    change (if progress.greatest < interval then interval else progress.greatest) = _
    rw [matched.greatest]
    exact (greatest_record progress.histogram interval).symm

theorem foldl_observe (matched : progress.Matched) (observed : List UInt64) :
    (observed.foldl Progress.observe progress).Matched := by
  induction observed generalizing progress with
  | nil => exact matched
  | cons interval observed hypothesis => exact hypothesis (matched.observe interval)

end Progress.Matched

theorem histogram_foldl_observe (progress : Progress) (observed : List UInt64) :
    (observed.foldl Progress.observe progress).histogram =
      observed.foldl Histogram.record progress.histogram := by
  induction observed generalizing progress with
  | nil => rfl
  | cons interval observed hypothesis => exact hypothesis (progress.observe interval)

/-! ## The elapsed time -/

/-- The elapsed time by which a loop decides whether to go on after a number of intervals, if
the first of them begins with a reading. -/
def elapsedAfter (clock : Nat -> UInt64) (first : Nat) (start elapsed : UInt64) : Nat -> UInt64
  | 0 => elapsed
  | count + 1 => Word.minus (clock (first + 2 * count + 1)) start

/-- An interval that was measured is one less to come. -/
theorem elapsedAfter_succ
    (clock : Nat -> UInt64)
    (first : Nat)
    (start elapsed : UInt64)
    (count : Nat) :
    elapsedAfter clock first start elapsed (count + 1) =
      elapsedAfter clock (first + 2) start (Word.minus (clock (first + 1)) start) count := by
  cases count with
  | zero => rfl
  | succ count =>
      change Word.minus (clock (first + 2 * (count + 1) + 1)) start =
        Word.minus (clock (first + 2 + 2 * count + 1)) start
      rw [Nat.mul_succ, Nat.add_comm (2 * count) 2, Nat.add_assoc first 2]

/-- The counts of intervals after which a loop ends. -/
def Passed (clock : Nat -> UInt64) (first : Nat) (duration start elapsed : UInt64) : Set Nat :=
  {count | duration ≤ elapsedAfter clock first start elapsed count}

/-- A loop that measures an interval ends after one less from there. -/
theorem isLeast_passed_of_left
    {clock : Nat -> UInt64}
    {first : Nat}
    {duration start elapsed : UInt64}
    {count : Nat}
    (left : elapsed < duration)
    (ends : IsLeast (Passed clock first duration start elapsed) count) :
    exists fewer, count = fewer + 1 ∧
      IsLeast
        (Passed clock (first + 2) duration start (Word.minus (clock (first + 1)) start))
        fewer := by
  obtain ⟨passed, least⟩ := ends
  cases count with
  | zero => exact absurd passed (UInt64.not_le.mpr left)
  | succ fewer =>
      refine ⟨fewer, rfl, ?_, ?_⟩
      · change duration ≤ _ at passed
        rwa [elapsedAfter_succ] at passed
      · intro other also
        have later : other + 1 ∈ Passed clock first duration start elapsed := by
          change duration ≤ _
          rwa [elapsedAfter_succ]
        exact Nat.le_of_succ_le_succ (least later)

/-! ## Runs of the loop -/

variable {duration start elapsed : UInt64} (station : Station)

/-- A loop measures as many intervals as it takes for the duration to pass, if its bound
allows as many. -/
theorem run_intervalsFrom_of_passed
    {count : Nat}
    (ends : IsLeast (Passed station.clock station.reads duration start elapsed) count)
    (steps : Nat)
    (progress : Progress) :
    station.run (intervalsFrom duration start steps elapsed progress) =
      if count ≤ steps then
        (some ((intervals station.clock station.reads count).foldl Progress.observe progress),
          afterPair^[count] station)
      else
        (none, afterPair^[steps] station) := by
  induction steps generalizing elapsed progress station count with
  | zero =>
      by_cases left : elapsed < duration
      · obtain ⟨fewer, rfl, _⟩ := isLeast_passed_of_left left ends
        rw [intervalsFrom, if_pos left, if_neg (Nat.not_succ_le_zero fewer)]
        rfl
      · obtain rfl : count = 0 := Nat.le_zero.mp (ends.2 (UInt64.not_lt.mp left))
        rw [intervalsFrom, if_neg left, if_pos (Nat.le_refl 0)]
        rfl
  | succ steps hypothesis =>
      by_cases left : elapsed < duration
      · obtain ⟨fewer, rfl, sooner⟩ := isLeast_passed_of_left left ends
        have goesOn := hypothesis (afterPair station) sooner
        rw [run_intervalsFrom_succ left, goesOn, intervals_succ, List.foldl_cons,
          Function.iterate_succ_apply, Function.iterate_succ_apply]
        simp only [Nat.succ_le_succ_iff]
        rfl
      · obtain rfl : count = 0 := Nat.le_zero.mp (ends.2 (UInt64.not_lt.mp left))
        rw [intervalsFrom, if_neg left, if_pos (Nat.zero_le _)]
        rfl

/-- A loop for which the duration never passes is cut off by every bound. -/
theorem run_intervalsFrom_of_left
    (left : forall count,
      elapsedAfter station.clock station.reads start elapsed count < duration)
    (steps : Nat)
    (progress : Progress) :
    (station.run (intervalsFrom duration start steps elapsed progress)).1 = none := by
  have now : elapsed < duration := left 0
  induction steps generalizing elapsed progress station with
  | zero =>
      rw [intervalsFrom, if_pos now]
      rfl
  | succ steps hypothesis =>
      have further (count : Nat) :
          elapsedAfter station.clock (station.reads + 2) start
            (Word.minus (station.clock (station.reads + 1)) start) count < duration := by
        rw [← elapsedAfter_succ]
        exact left (count + 1)
      rw [run_intervalsFrom_succ now]
      exact hypothesis (afterPair station) further _ (further 0)

theorem reads_iterate_afterPair (count : Nat) (station : Station) :
    (afterPair^[count] station).reads = station.reads + 2 * count := by
  induction count generalizing station with
  | zero => rfl
  | succ count hypothesis =>
      rw [Function.iterate_succ_apply, hypothesis]
      change station.reads + 2 + 2 * count = _
      omega

/-- What a run yields when its loop has come to an end. -/
def Progress.outcome (progress : Progress) : JitterStats × Histogram :=
  (⟨progress.histogram.whenSampled progress.least,
    progress.histogram.whenSampled progress.greatest⟩, progress.histogram)

/-- If the extremes of the loop are those of its histogram, the run reports what the histogram
says. -/
theorem Progress.Matched.outcome_eq {progress : Progress} (matched : progress.Matched) :
    progress.outcome =
      (⟨progress.histogram.summary.least, progress.histogram.summary.greatest⟩,
        progress.histogram) := by
  rw [Progress.outcome, matched.least, matched.greatest]
  rfl

/-- The station at which the loop of a run begins. -/
def afterWarming (station : Station) : Station :=
  ((station.afterReading .schedule).afterReading .schedule).afterReading .schedule

/-- A run is its loop, once the clock was read to begin and to warm up. -/
theorem run_eq_loop
    (steps : Nat)
    (duration : Duration)
    (histogram : Histogram)
    (station : Station) :
    station.run (run steps duration histogram) =
      Prod.map (Option.map Progress.outcome) id
        ((afterWarming station).run
          (intervalsFrom duration.clockNanos (station.clock station.reads) steps 0
            ⟨histogram, UInt64.ofNat Word.limit, 0⟩)) := by
  let loop :=
    intervalsFrom duration.clockNanos (station.clock station.reads) steps 0
      ⟨histogram, UInt64.ofNat Word.limit, 0⟩
  have warms : station.run (run steps duration histogram) =
      (afterWarming station).run (loop >>= fun progress => pure progress.outcome) := rfl
  rw [warms, Station.run, Program.run_bind]
  change _ = Prod.map _ _ (Program.run Station.answer loop (afterWarming station))
  cases Program.run Station.answer loop (afterWarming station) with
  | mk result after => cases result <;> rfl

/-- For a duration that the clock can count, a run ends as its loop does. -/
theorem endsAfter_iff
    {duration : Duration}
    (short : duration.toNanos < 2 ^ 64)
    (clock : Nat -> UInt64)
    (first count : Nat) :
    EndsAfter (fun index => clock (first + index)) duration count ↔
      IsLeast (Passed clock (first + 3) duration.clockNanos (clock first) 0) count := by
  have nanos : duration.clockNanos.toNat = duration.toNanos := by
    rw [Duration.toNat_clockNanos]
    exact Nat.mod_eq_of_lt short
  unfold EndsAfter
  split
  · next empty =>
    have always (intervals : Nat) :
        intervals ∈ Passed clock (first + 3) duration.clockNanos (clock first) 0 := by
      change duration.clockNanos ≤ _
      rw [UInt64.le_iff_toNat_le, nanos, empty]
      exact Nat.zero_le _
    constructor
    · rintro rfl
      exact ⟨always 0, fun _ _ => Nat.zero_le _⟩
    · intro least
      exact Nat.le_zero.mp (least.2 (always 0))
  · next lasting =>
    have same (intervals : Nat) :
        (1 ≤ intervals ∧
          duration.toNanos ≤
            (clock (first + (2 * intervals + 2))).toNat - (clock (first + 0)).toNat) ↔
        intervals ∈ Passed clock (first + 3) duration.clockNanos (clock first) 0 := by
      change _ ↔ duration.clockNanos ≤ _
      rw [UInt64.le_iff_toNat_le, nanos]
      cases intervals with
      | zero => simpa [elapsedAfter] using lasting
      | succ intervals =>
          have place : first + 3 + 2 * intervals + 1 = first + (2 * (intervals + 1) + 2) := by
            omega
          rw [elapsedAfter, Word.toNat_minus, place]
          simp
    rw [Set.ext same]
    rfl

/-- If the clock ever lets the duration pass, there is a number of intervals after which a run
ends. -/
theorem exists_endsAfter
    {duration : Duration}
    (short : duration.toNanos < 2 ^ 64)
    {clock : Nat -> UInt64}
    {first count : Nat}
    (passed : count ∈ Passed clock (first + 3) duration.clockNanos (clock first) 0) :
    exists count, EndsAfter (fun index => clock (first + index)) duration count := by
  classical
  have ever : exists count,
      count ∈ Passed clock (first + 3) duration.clockNanos (clock first) 0 := ⟨count, passed⟩
  exact ⟨Nat.find ever, (endsAfter_iff short clock first _).mpr
    ⟨Nat.find_spec ever, fun _ also => Nat.find_min' ever also⟩⟩

/-- A run measures as many intervals as it takes for the duration to pass, if its bound allows
as many. -/
theorem run_of_endsAfter
    {duration : Duration}
    (short : duration.toNanos < 2 ^ 64)
    {station : Station}
    {count : Nat}
    (endsAfter :
      EndsAfter (fun index => station.clock (station.reads + index)) duration count)
    (histogram : Histogram)
    (steps : Nat) :
    station.run (run steps duration histogram) =
      if count ≤ steps then
        (some ((intervals station.clock (station.reads + 3) count).foldl Progress.observe
            ⟨histogram, UInt64.ofNat Word.limit, 0⟩).outcome,
          afterPair^[count] (afterWarming station))
      else
        (none, afterPair^[steps] (afterWarming station)) := by
  have least := (endsAfter_iff short station.clock station.reads count).mp endsAfter
  have loops := run_intervalsFrom_of_passed (afterWarming station) least steps
    ⟨histogram, UInt64.ofNat Word.limit, 0⟩
  rw [run_eq_loop, loops]
  split <;> rfl

/-- A run that comes to an end has let the duration pass. -/
theorem exists_endsAfter_of_ends
    {duration : Duration}
    (short : duration.toNanos < 2 ^ 64)
    {station : Station}
    {histogram : Histogram}
    {steps : Nat}
    (ends : (station.run (run steps duration histogram)).1.isSome) :
    exists count,
      EndsAfter (fun index => station.clock (station.reads + index)) duration count := by
  by_contra never
  have left (count : Nat) :
      elapsedAfter station.clock (station.reads + 3) (station.clock station.reads) 0 count <
        duration.clockNanos := by
    rw [← UInt64.not_le]
    exact fun passed => never (exists_endsAfter short passed)
  have cutOff := run_intervalsFrom_of_left (afterWarming station) left steps
    ⟨histogram, UInt64.ofNat Word.limit, 0⟩
  rw [run_eq_loop, Prod.map_fst, cutOff] at ends
  contradiction

/-- The intervals of a run, by their places among its readings. -/
theorem intervals_eq_map (clock : Nat -> UInt64) (first count : Nat) :
    intervals clock (first + 3) count =
      (List.range' 1 count).map fun interval =>
        Word.minus (clock (first + (2 * interval + 2))) (clock (first + (2 * interval + 1))) := by
  apply List.ext_getElem
  · simp
  · intro index _ _
    have place : first + 3 + 2 * index = first + (2 * (1 + index) + 1) := by omega
    simp only [intervals, List.getElem_map, List.getElem_range', Nat.one_mul, place]
    rfl

/-- A run with a fresh histogram and a duration that the clock can count ends exactly if the
clock lets the duration pass after some number of intervals. It then measures exactly that
many, with three readings before them and two for each; its histogram is the fresh one after
recording them in order, and the extremes that it reports are those of the histogram, of
which there are none without intervals. -/
theorem run_ends_with_duration
    (bucketCount : Nat)
    (width : UInt64)
    {duration : Duration}
    (short : duration.toNanos < 2 ^ 64)
    (station : Station) :
    let fresh := Histogram.fresh bucketCount width
    let reading := fun index => station.clock (station.reads + index)
    ((exists steps, (station.run (run steps duration fresh)).1.isSome) ↔
        exists count, EndsAfter reading duration count) ∧
      forall count, EndsAfter reading duration count -> forall steps,
        let run := station.run (run steps duration fresh)
        (run.1.isSome ↔ count ≤ steps) ∧
          forall stats final, run.1 = some (stats, final) ->
            run.2.reads = station.reads + (3 + 2 * count) ∧
              final =
                ((List.range' 1 count).map fun interval =>
                  Word.minus (reading (2 * interval + 2)) (reading (2 * interval + 1))).foldl
                    Histogram.record fresh ∧
              stats = ⟨final.summary.least, final.summary.greatest⟩ ∧
              (count = 0 -> stats = ⟨none, none⟩) := by
  intro fresh reading
  refine ⟨⟨fun ⟨steps, ends⟩ => exists_endsAfter_of_ends short ends, ?_⟩, ?_⟩
  · rintro ⟨count, endsAfter⟩
    refine ⟨count, ?_⟩
    rw [run_of_endsAfter short endsAfter, if_pos (Nat.le_refl count)]
    rfl
  · intro count endsAfter steps run
    let begins : Progress := ⟨fresh, UInt64.ofNat Word.limit, 0⟩
    let observed := intervals station.clock (station.reads + 3) count
    have matched : begins.Matched := ⟨rfl, rfl⟩
    have ran := run_of_endsAfter short endsAfter fresh steps
    by_cases enough : count ≤ steps
    · rw [if_pos enough, (matched.foldl_observe observed).outcome_eq,
        histogram_foldl_observe] at ran
      refine ⟨iff_of_true (congrArg (Option.isSome ∘ Prod.fst) ran) enough, ?_⟩
      intro stats final ends
      obtain ⟨rfl, rfl⟩ :=
        Prod.mk.inj (Option.some.inj (ends.symm.trans (congrArg Prod.fst ran)))
      refine ⟨?_, ?_, rfl, ?_⟩
      · rw [show run.2 = _ from congrArg Prod.snd ran, reads_iterate_afterPair]
        change station.reads + 3 + 2 * count = _
        omega
      · rw [← intervals_eq_map]
      · rintro rfl
        rfl
    · rw [if_neg enough] at ran
      have cutOff : run.1 = none := congrArg Prod.fst ran
      refine ⟨iff_of_false (by simp [cutOff]) enough, ?_⟩
      intro stats final ends
      exact absurd (cutOff.symm.trans ends) nofun

/-- The second reading of the first interval comes too early, and the first one of the second
interval is late enough but not looked at. The second interval runs backwards. -/
theorem run_ends_after_three_intervals :
    let clock := fun reading => [10, 3, 5, 40, 50, 200, 30, 60, 120].getD reading 0
    let station := Station.start clock (fun _ _ => none) .empty
    let duration := Duration.ofNanos 80
    duration.toNanos < 2 ^ 64 ∧ EndsAfter clock duration 3 ∧
      (station.run (run 2 duration (Histogram.fresh 4 10))).1 = none ∧
      (station.run (run 3 duration (Histogram.fresh 4 10))).2.reads = 9 ∧
      exists final,
        (station.run (run 3 duration (Histogram.fresh 4 10))).1 =
            some (⟨some 0, some 60⟩, final) ∧
          final = (((Histogram.fresh 4 10).record 10).record 0).record 60 := by
  intro clock station duration
  have short : duration.toNanos < 2 ^ 64 := by decide
  have endsAfter : EndsAfter clock duration 3 := by
    unfold EndsAfter
    rw [if_neg (by decide)]
    refine ⟨⟨by decide, by decide⟩, ?_⟩
    rintro intervals ⟨positive, passed⟩
    by_contra fewer
    have few : intervals = 1 ∨ intervals = 2 := by omega
    rcases few with rfl | rfl
    · exact absurd passed (by decide)
    · exact absurd passed (by decide)
  have counted : EndsAfter (fun index => station.clock (station.reads + index)) duration 3 := by
    rwa [show (fun index => station.clock (station.reads + index)) = clock from
      funext fun index => congrArg clock (Nat.zero_add index)]
  obtain ⟨_, measures⟩ := run_ends_with_duration 4 10 short station
  have cutOff : (station.run (run 2 duration (Histogram.fresh 4 10))).1 = none :=
    Option.not_isSome_iff_eq_none.mp (mt (measures 3 counted 2).1.mp (by decide))
  obtain ⟨ends, yields⟩ := measures 3 counted 3
  obtain ⟨⟨stats, final⟩, ran⟩ := Option.isSome_iff_exists.mp (ends.mpr (Nat.le_refl 3))
  obtain ⟨reads, recorded, extremes, _⟩ := yields stats final ran
  have recorded : final = (((Histogram.fresh 4 10).record 10).record 0).record 60 :=
    recorded.trans (by decide +kernel)
  have extremes : stats = ⟨some 0, some 60⟩ := by
    rw [extremes, recorded]
    decide +kernel
  rw [extremes] at ran
  exact ⟨short, endsAfter, cutOff, reads, final, ran, recorded⟩

end Jitter
end LatencyMeter

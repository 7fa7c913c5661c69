import LatencyMeter.Histogram
import LatencyMeter.Sending

/-!
# Clock jitter

The jitter loop reads the clock twice in a row, over and over, and records the
interval between the two readings, until a duration has passed since its first
reading. It also keeps the extremes of the intervals of this loop; they are
reported when the histogram holds any sample at all.
-/

namespace LatencyMeter

/-- The extremes of the intervals of a jitter loop. -/
structure JitterStats where
  least : Option UInt64
  greatest : Option UInt64
  deriving DecidableEq, Repr

namespace Jitter

/-- How far a jitter loop has come. -/
structure Progress where
  histogram : Histogram
  least : UInt64
  greatest : UInt64
  deriving Inhabited

/-- Take note of one interval. -/
def Progress.observe (progress : Progress) (interval : UInt64) : Progress where
  histogram := progress.histogram.record interval
  least := if interval < progress.least then interval else progress.least
  greatest := if progress.greatest < interval then interval else progress.greatest

/-- Measure intervals until the elapsed time reaches the duration. -/
def intervalsFrom (duration start : UInt64) :
    Nat -> UInt64 -> Progress -> Sending Progress
  | 0, elapsed, progress =>
      if elapsed < duration then .unfinished else return progress
  | steps + 1, elapsed, progress =>
      if elapsed < duration then do
        let first <- Sending.readClock .sample
        let second <- Sending.readClock .sample
        intervalsFrom duration start steps (Word.minus second start)
          (progress.observe (Word.minus second first))
      else
        return progress

/-- Measure for a duration, with a bound on the count of intervals. -/
def run (steps : Nat) (duration : Duration) (histogram : Histogram) :
    Sending (JitterStats × Histogram) := do
  let start <- Sending.readClock .schedule
  let _ <- Sending.readClock .schedule
  let _ <- Sending.readClock .schedule
  let progress <-
    intervalsFrom duration.clockNanos start steps 0
      ⟨histogram, UInt64.ofNat Word.limit, 0⟩
  let measured := progress.histogram
  return (⟨measured.whenSampled progress.least, measured.whenSampled progress.greatest⟩,
    measured)

end Jitter
end LatencyMeter

import LatencyMeter.Duration

/-!
# Open-loop schedule

At a fixed rate the first message is due at once and one more after every interval
of a second divided by the rate. The number of messages due after some time is
computed from the elapsed time alone, never from what was sent, so a late sender
catches up.
-/

namespace LatencyMeter
namespace Schedule

/-- How many of `count` messages are due after a time, at a rate per second. -/
def due (elapsed rate count : UInt64) : UInt64 :=
  let intervals := (Word.product elapsed rate / 1000000000#128).toNat
  min (Word.plus (Word.clamp intervals) 1) count

/-- No more messages are due than there are. -/
theorem due_le (elapsed rate count : UInt64) : due elapsed rate count ≤ count := by
  unfold due
  rw [UInt64.le_iff_toNat_le]
  exact UInt64.le_iff_toNat_le.mp (Std.min_le_right)

end Schedule
end LatencyMeter

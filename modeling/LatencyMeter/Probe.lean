import LatencyMeter.Sending

/-!
# Throughput probes

A probe sends one payload over and over, two messages for each reading of the
clock, until a duration has passed, and counts its messages. Nothing is stamped,
counted as in flight or recorded.
-/

namespace LatencyMeter
namespace Probe

/-- Send pairs of messages until the elapsed time reaches the duration. -/
def pairsFrom (payload : Payload) (duration start : UInt64) :
    Nat -> UInt64 -> UInt64 -> Sending (Except Failure UInt64)
  | 0, elapsed, sends =>
      if elapsed < duration then .unfinished else return .ok sends
  | steps + 1, elapsed, sends =>
      if elapsed < duration then do
        match <- Sending.transmit payload with
        | some fault => return .error ((Failure.ofCause (.transport fault)).within .probeSend)
        | none =>
            match <- Sending.transmit payload with
            | some fault =>
                return .error ((Failure.ofCause (.transport fault)).within .probeSend)
            | none =>
                let now <- Sending.readClock .schedule
                pairsFrom payload duration start steps (Word.minus now start) (sends + 2)
      else
        return .ok sends

/-- Send a payload for a duration and count the messages, with a bound on the clock readings. -/
def run (steps : Nat) (payload : Payload) (duration : Duration) :
    Sending (Except Failure UInt64) := do
  let start <- Sending.readClock .schedule
  pairsFrom payload duration.clockNanos start steps 0 0

end Probe
end LatencyMeter

import LatencyMeter.Decimal.Fixed
import LatencyMeter.Error

/-!
# Figures of a run

The sending side of a run ends in its send metrics, the receiving side keeps
running counts. The achieved rate counts intervals between messages: the first
message leaves at time zero, so `n` messages span `n - 1` intervals.
-/

namespace LatencyMeter

/-- What the sending side of a run achieved. -/
structure SendMetrics where
  sends : UInt64
  /-- How long sending took, in nanoseconds. -/
  duration : UInt64
  /-- Messages per second, not counting the first. -/
  rate : Float
  largestBurst : UInt64
  largestFlight : Int64

namespace SendMetrics

/-- The rate of a number of messages sent over a time in nanoseconds. -/
def achievedRate (sends duration : UInt64) : Float :=
  if 0 < duration ∧ 0 < sends then
    (sends - 1).toFloat / (duration.toFloat / 1000000000.0)
  else
    0.0

/-- The metrics of a run. -/
def measured (sends duration largestBurst : UInt64) (largestFlight : Int64) : SendMetrics where
  sends := sends
  duration := duration
  rate := achievedRate sends duration
  largestBurst := largestBurst
  largestFlight := largestFlight

/-- The text of a message rate, in thousands or millions when it is large. -/
def rateText (rate : Float) : String :=
  if rate < 1000.0 then
    Decimal.fixed 0 rate ++ " msg/s"
  else if rate < 1000000.0 then
    Decimal.fixed 2 (rate / 1000.0) ++ "K msg/s"
  else
    Decimal.fixed 2 (rate / 1000000.0) ++ "M msg/s"

end SendMetrics

/-- What the receiving side of a stream has counted since the stream began. -/
structure ReceiveCounts where
  received : UInt64
  retransmitted : UInt64
  /-- Messages that the transport gave up on. -/
  lost : UInt64
  /-- Samples that ran backwards in time. -/
  rejected : UInt64
  /-- Echoes that confirmed no message. -/
  ignored : UInt64
  deriving DecidableEq, Repr

namespace ReceiveCounts

/-- Nothing has been counted. -/
def zero : ReceiveCounts := ⟨0, 0, 0, 0, 0⟩

instance : Inhabited ReceiveCounts := ⟨zero⟩

/-- Count a message, and whether it came by a recovery path. -/
def addMessage (counts : ReceiveCounts) (retransmit : Bool) : ReceiveCounts :=
  { counts with
    received := counts.received + 1
    retransmitted := if retransmit then counts.retransmitted + 1 else counts.retransmitted }

/-- Count a loss that was not recovered. -/
def addLoss (counts : ReceiveCounts) : ReceiveCounts :=
  { counts with lost := counts.lost + 1 }

/-- Count a rejected sample. -/
def addRejected (counts : ReceiveCounts) : ReceiveCounts :=
  { counts with rejected := counts.rejected + 1 }

/-- Count an ignored echo. -/
def addIgnored (counts : ReceiveCounts) : ReceiveCounts :=
  { counts with ignored := counts.ignored + 1 }

end ReceiveCounts
end LatencyMeter

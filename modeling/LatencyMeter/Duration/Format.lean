import LatencyMeter.Decimal.Fixed
import LatencyMeter.Duration

/-!
# Texts of durations

Two texts of a duration. `text` is for people: two decimal places in a unit suited
to the size. `exactText` keeps every nanosecond, in the largest unit that the
duration fills, without zeros at the end of its fraction.
-/

namespace LatencyMeter
namespace Duration

/-- The text of a length in nanoseconds, in a unit suited to its size. -/
def textOfNanos (nanos : Nat) : String :=
  let number := Float.ofNat nanos
  if nanos < 1000 then
    String.ofList (Decimal.padded 1 nanos) ++ "ns"
  else if nanos < 1000000 then
    Decimal.fixed 2 (number / 1000.0) ++ "μs"
  else if nanos < 1000000000 then
    Decimal.fixed 2 (number / 1000000.0) ++ "ms"
  else
    Decimal.fixed 2 (number / 1000000000.0) ++ "s"

/-- The text of a duration, in a unit suited to its size. -/
def text (duration : Duration) : String :=
  textOfNanos duration.toNanos

/-- A number of units of the last of `places` decimal places, without zeros at the end. -/
def trimmedPlaces (places units : Nat) : List Char :=
  let whole := Decimal.padded 1 (units / Nat.pow 10 places)
  let fraction :=
    ((Decimal.padded places (units % Nat.pow 10 places)).reverse.dropWhile (· == '0')).reverse
  if places = 0 ∨ fraction = [] then whole else whole ++ '.' :: fraction

/-- The text of a duration to the nanosecond, in the largest unit that it fills. -/
def exactText (duration : Duration) : String :=
  let nanos := duration.toNanos
  let (places, unit) :=
    if nanosPerSecond ≤ nanos then (9, "s")
    else if 1000000 ≤ nanos then (6, "ms")
    else if 1000 ≤ nanos then (3, "µs")
    else (0, "ns")
  String.ofList (trimmedPlaces places nanos) ++ unit

example : exactText (ofNanos 1500000) = "1.5ms" := by decide +kernel

example : exactText zero = "0ns" ∧ exactText (ofNanos 60000000000) = "60s" := by
  decide +kernel

end Duration
end LatencyMeter

import LatencyMeter.Word

/-!
# Durations

A duration is a number of whole seconds and a number of nanoseconds below one
second, so that every duration has one representation. Loops that measure a
duration on the 64-bit clock compare with its nanoseconds modulo `2 ^ 64`.
-/

namespace LatencyMeter

/-- Nanoseconds in one second. -/
def nanosPerSecond : Nat := 1000000000

/-- A length of time with a resolution of one nanosecond. -/
structure Duration where
  seconds : UInt64
  nanoseconds : UInt32
  nanoseconds_lt : nanoseconds.toNat < nanosPerSecond := by decide
  deriving DecidableEq

namespace Duration

/-- The whole length in nanoseconds. -/
def toNanos (duration : Duration) : Nat :=
  duration.seconds.toNat * nanosPerSecond + duration.nanoseconds.toNat

/-- The empty duration. -/
def zero : Duration := ⟨0, 0, by decide⟩

instance : Inhabited Duration := ⟨zero⟩

/-- Whether the duration is empty. -/
def isZero (duration : Duration) : Bool :=
  duration.seconds == 0 && duration.nanoseconds == 0

/-- The duration of a number of nanoseconds. -/
def ofNanos (nanos : UInt64) : Duration where
  seconds := UInt64.ofNat (nanos.toNat / nanosPerSecond)
  nanoseconds := UInt32.ofNat (nanos.toNat % nanosPerSecond)
  nanoseconds_lt := by
    have small : nanos.toNat % nanosPerSecond < nanosPerSecond := Nat.mod_lt _ (by decide)
    have bounded : nanos.toNat % nanosPerSecond < 2 ^ 32 := by
      unfold nanosPerSecond at *
      omega
    simpa [UInt32.toNat_ofNat_of_lt' bounded] using small

@[simp] theorem toNanos_ofNanos (nanos : UInt64) : (ofNanos nanos).toNanos = nanos.toNat := by
  have bound := nanos.toNat_lt
  have seconds : nanos.toNat / nanosPerSecond < 2 ^ 64 := by
    unfold nanosPerSecond
    omega
  have rest : nanos.toNat % nanosPerSecond < 2 ^ 32 := by
    unfold nanosPerSecond
    omega
  simp only [toNanos, ofNanos, UInt64.toNat_ofNat_of_lt' seconds, UInt32.toNat_ofNat_of_lt' rest]
  exact Nat.div_add_mod' _ _

/-- The duration of a number of milliseconds. -/
def ofMillis (millis : UInt64) : Duration where
  seconds := millis / 1000
  nanoseconds := UInt32.ofNat (millis.toNat % 1000 * 1000000)
  nanoseconds_lt := by
    have small : millis.toNat % 1000 < 1000 := Nat.mod_lt _ (by decide)
    have bounded : millis.toNat % 1000 * 1000000 < 2 ^ 32 := by omega
    rw [UInt32.toNat_ofNat_of_lt' bounded]
    unfold nanosPerSecond
    omega

/-- The length in whole milliseconds. -/
def toMillis (duration : Duration) : Nat :=
  duration.toNanos / 1000000

@[simp] theorem toMillis_ofMillis (millis : UInt64) : (ofMillis millis).toMillis = millis.toNat := by
  have whole : (millis / 1000).toNat = millis.toNat / 1000 := UInt64.toNat_div millis 1000
  have bounded : millis.toNat % 1000 * 1000000 < 2 ^ 32 := by omega
  simp only [toMillis, toNanos, ofMillis, whole, UInt32.toNat_ofNat_of_lt' bounded, nanosPerSecond]
  omega

/-- The length in nanoseconds as a clock interval, which wraps. -/
def clockNanos (duration : Duration) : UInt64 :=
  UInt64.ofNat duration.toNanos

theorem toNat_clockNanos (duration : Duration) :
    duration.clockNanos.toNat = duration.toNanos % UInt64.size := by
  simp [clockNanos]

end Duration
end LatencyMeter

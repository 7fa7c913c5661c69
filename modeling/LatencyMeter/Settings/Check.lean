import LatencyMeter.Header
import LatencyMeter.Log
import LatencyMeter.Settings.Pair
import LatencyMeter.Duration

/-!
# Checks of settings

Settings are checked before anything is sent. Each check refuses one kind of value
that a run could not use, and says why.
-/

namespace LatencyMeter
namespace Check

/-- The count of cores that a thread can be bound to. -/
def cpuLimit : UInt64 := 1024

/-- Refuse a count, rate or size of zero. -/
def positive (name : String) (value : UInt64) : Except ConfigFault Unit :=
  if value = 0 then .error (.zero name) else .ok ()

/-- Refuse a geometry with no or too many buckets, or of width zero. -/
def geometry (geometry : Geometry) : Except ConfigFault Unit := do
  positive "histogram bucket count" geometry.bucketCount
  positive "histogram bucket width" geometry.bucketWidth
  if Histogram.maxBuckets < geometry.bucketCount then
    throw (.tooManyBuckets geometry.bucketCount Histogram.maxBuckets)

/-- Refuse messages without room for a header. -/
def messageLength (length : UInt64) : Except ConfigFault Unit :=
  if length.toNat < Header.size then
    .error (.messageTooShort length (UInt64.ofNat Header.size))
  else
    .ok ()

/-- Refuse warmup loops beyond the priming message that have no rate. -/
def warmup (warmup : Warmup) : Except ConfigFault Unit :=
  if 1 < warmup.loops ∧ warmup.rate = 0 then .error (.warmupRate warmup.loops) else .ok ()

/-- Refuse an empty duration. -/
def duration (name : String) (duration : Duration) : Except ConfigFault Unit :=
  if duration.isZero then .error (.zero name) else .ok ()

/-- Refuse a core that no thread can be bound to. -/
def cpu (cpu : UInt64) : Except ConfigFault Unit :=
  if cpuLimit ≤ cpu then .error (.cpuOutOfRange cpu (cpuLimit - 1)) else .ok ()

/-- Check a core that may be absent. -/
def optionalCpu (core : Option UInt64) : Except ConfigFault Unit :=
  match core with
  | none => .ok ()
  | some core => cpu core

/-- The diagnostic of a core that the host may not have. -/
def coreEntry (cores cpu : UInt64) : Log.Entry where
  level := .warning
  message := "requested cpu is beyond the detected core count"
  fields := [("cpu", wordText cpu), ("cores", wordText cores)]

/-- The diagnostics of cores checked one after the other, up to the first refused one. -/
def coreEntries (cores : UInt64) (cpus : List (Option UInt64)) : List Log.Entry :=
  let checked := (cpus.filterMap id).takeWhile fun cpu => cpu < cpuLimit
  (checked.filter fun cpu => cores ≤ cpu).map (coreEntry cores)

end Check
end LatencyMeter

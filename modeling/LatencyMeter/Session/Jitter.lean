import LatencyMeter.Calibration
import LatencyMeter.Probe
import LatencyMeter.Session
import LatencyMeter.Settings.Jitter

/-!
# Measuring the clock

A jitter session binds its thread to the core it is given, or calibrates: the
workload of a core is a probe that does not count, to warm up, and one that does.
Then it measures the clock and reports.
-/

namespace LatencyMeter

/-- Everything that a jitter session yields. -/
structure JitterResult where
  core : UInt64
  probes : List CoreProbe
  stats : JitterStats
  histogram : Histogram

namespace JitterSettings

open Session

/-- The payload of probe messages. -/
def probePayload : Payload := "um_lat_jitter".toUTF8.toList

/-- The diagnostic of a calibration that begins. -/
def calibrationEntry (settings : JitterSettings) : Log.Entry where
  level := .info
  message := "calibrating with udp probe"
  fields := [("dest", settings.group.text)]

/-- The workload of a core, and its line in the report. -/
def probe (settings : JitterSettings) (steps : Nat) (core : UInt64) : Session UInt64 := do
  let _ <- ofExcept (<- ofSending (Probe.run steps probePayload settings.probeWarmup))
  let sends <- ofExcept (<- ofSending (Probe.run steps probePayload settings.probeWindow))
  print (Report.coreProbe ⟨core, sends⟩)
  return sends

/-- What a session does for each request of calibration. -/
def respond (settings : JitterSettings) (steps : Nat) :
    (request : Calibration.Request) ->
      Program Session.Request Session.Request.Answer request.Answer
  | .bind core => do
      let accepted <- Program.request (Session.Request.bindThread core)
      return (accepted : Calibration.Binding core)
  | .probe core => (settings.probe steps core).run
  | .note entry => Program.request (Session.Request.sending (.note entry))

/-- Find the core to run on, with the probes that led to it. -/
def calibrate (settings : JitterSettings) (steps : Nat) : Session (UInt64 × List CoreProbe) := do
  within .openingProbe do
    refuse (<- ask (.openProbe settings.probeEndpoint))
  notes (openedEntries settings.probeEndpoint)
  note settings.calibrationEntry
  let result <- ExceptT.lift ((Calibration.run none).translate (settings.respond steps))
  let calibration <- ofExcept result
  return (calibration.best, calibration.probes)

/-- Bind the thread to the core to run on, with the probes that led to it. -/
def settle (settings : JitterSettings) (steps : Nat) : Session (UInt64 × List CoreProbe) := do
  match settings.cpu with
  | some cpu =>
      within (.bindingCpu cpu) (bindThread cpu)
      return (cpu, [])
  | none => settings.calibrate steps

/-- Measure the clock, with a bound on the readings of each probe and of the measurement. -/
def session (settings : JitterSettings) (steps : Nat) : Session JitterResult := do
  print settings.parameters
  let fresh <- createHistogram settings.geometry
  let (core, probes) <- settings.settle steps
  let (stats, histogram) <- ofSending (Jitter.run steps settings.duration fresh)
  print (Report.histogram histogram)
  print (Report.jitterStats stats)
  return ⟨core, probes, stats, histogram⟩

end JitterSettings
end LatencyMeter

import LatencyMeter.Settings.Ping

/-!
# Settings of a jitter run

A jitter run measures the clock on one core for a while. Unless the core is given
it is found by calibration, which sends probe messages to a group.
-/

namespace LatencyMeter

/-- The settings of a jitter run. -/
structure JitterSettings where
  geometry : Geometry
  /-- The core to run on. -/
  cpu : Option UInt64
  /-- Where probe messages are sent. -/
  group : SocketAddress
  interface : Option Ipv4
  duration : Duration
  /-- How long a core is probed before its probe counts. -/
  probeWarmup : Duration
  /-- How long a core is probed. -/
  probeWindow : Duration
  deriving DecidableEq

/-- What the command line says about a jitter run. -/
structure JitterOptions where
  geometry : Geometry
  cpu : Option UInt64
  group : Ipv4
  interface : Option Ipv4
  duration : Duration
  probeWarmup : Duration
  probeWindow : Duration
  deriving DecidableEq

/-- The port of probe messages. -/
def JitterOptions.probePort : UInt16 := 12000

/-- Refuse the first option on what is measured that a jitter run could not use. -/
def JitterOptions.checkMeasurement (options : JitterOptions) : Except ConfigFault Unit := do
  Check.geometry options.geometry
  Check.duration "duration" options.duration
  Check.duration "probe window" options.probeWindow

/-- The settings that the options ask for. -/
def JitterOptions.settings (options : JitterOptions) : Except ConfigFault JitterSettings := do
  options.checkMeasurement
  Check.optionalCpu options.cpu
  return {
    geometry := options.geometry
    cpu := options.cpu
    group := .v4 options.group JitterOptions.probePort
    interface := options.interface
    duration := options.duration
    probeWarmup := options.probeWarmup
    probeWindow := options.probeWindow }

namespace JitterSettings

/-- The named values of the parameter line. -/
def fields (settings : JitterSettings) : List Report.Field :=
  [ ("o_affinity_cpu", Report.optionalCpu settings.cpu),
    ("o_histogram", settings.geometry.text) ]

/-- The parameter line. -/
def parameters (settings : JitterSettings) : String :=
  Report.parameters settings.fields

/-- The end of the path of probe messages. -/
def probeEndpoint (settings : JitterSettings) : Endpoint :=
  ⟨.v4 Ipv4.unspecified 0, settings.group, settings.interface, none, Endpoint.defaultTtl⟩

end JitterSettings
end LatencyMeter

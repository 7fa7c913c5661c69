import LatencyMeter.Settings.Ping

/-!
# Settings of a reflector

A reflector receives at one address, echoes to another and may leave when a stream
ends.
-/

namespace LatencyMeter

/-- The settings of a reflector. -/
structure PongSettings where
  endpoint : Endpoint
  /-- The core of the receive thread. -/
  receiverCpu : Option UInt64
  /-- Whether to leave when a stream ends. -/
  exitOnEnd : Bool
  deriving DecidableEq

/-- What the command line says about a reflector. -/
structure PongOptions where
  bind : SocketAddress
  dest : SocketAddress
  interface : Option Ipv4
  join : Option Ipv4
  receiverCpu : Option UInt64
  exitOnEnd : Bool
  deriving DecidableEq

/-- The settings that the options ask for. -/
def PongOptions.settings (options : PongOptions) : Except ConfigFault PongSettings := do
  Check.optionalCpu options.receiverCpu
  return {
    endpoint :=
      ⟨options.bind, options.dest, options.interface, options.join, Endpoint.defaultTtl⟩
    receiverCpu := options.receiverCpu
    exitOnEnd := options.exitOnEnd }

namespace PongSettings

/-- The named values of the parameter line. -/
def fields (settings : PongSettings) : List Report.Field :=
  [ ("o_affinity_rcv", Report.optionalCpu settings.receiverCpu),
    ("o_exit_on_eos", if settings.exitOnEnd then "1" else "0"),
    ("o_bind", settings.endpoint.bind.text),
    ("o_dest", settings.endpoint.dest.text) ]

/-- The parameter line. -/
def parameters (settings : PongSettings) : String :=
  Report.parameters settings.fields

end PongSettings
end LatencyMeter

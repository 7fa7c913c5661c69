import LatencyMeter.Session
import LatencyMeter.Settings.Pong

/-!
# Reflecting

A reflector session opens its path, lets the receive thread echo, and leaves at the
first notification. The receive thread is stopped before the session ends.
-/

namespace LatencyMeter
namespace PongSettings

open Session

/-- The diagnostic of a reflector at work. -/
def readyEntry (settings : PongSettings) : Log.Entry where
  level := .info
  message := "pong reflecting"
  fields := [("bind", settings.endpoint.bind.text), ("dest", settings.endpoint.dest.text)]

/-- Wait for the first notification and say how to leave. -/
def awaitExit : Session (Except Failure Unit) := do
  match Notification.exit (<- ask .notification) with
  | .ok entry =>
      notes entry.toList
      return .ok ()
  | .error failure => return .error failure

/-- Reflect until a notification comes. -/
def session (settings : PongSettings) : Session Unit := do
  print settings.parameters
  within (.openingTransport settings.endpoint.bind) do
    refuse (<- ask (.reflect settings.endpoint settings.receiverCpu settings.exitOnEnd))
  notes (openedEntries settings.endpoint)
  note settings.readyEntry
  let exit <- awaitExit
  stopReceiver
  ofExcept exit

end PongSettings
end LatencyMeter

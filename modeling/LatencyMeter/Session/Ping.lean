import LatencyMeter.Pacer
import LatencyMeter.Session

/-!
# Measuring round trips

A measurement sends a priming message if any warmup is asked for, pauses, sends the
rest of the warmup, and then forgets all samples and sends the measured messages.
Priming and warmup messages are not stamped, so their echoes are never recorded.
After the last message it lingers, closes the path, waits for the receive thread and
reports.
-/

namespace LatencyMeter

/-- Everything that a measurement yields. -/
structure PingResult where
  send : SendMetrics
  receive : ReceiveCounts
  histogram : Histogram

/-- The name of a path in diagnostics. -/
def PingPath.linkName : PingPath -> String
  | .datagrams _ => "udp"
  | .loopback => "loopback"

namespace PingSettings

open Session

/-- The rate of the priming message, which has nothing to wait for. -/
def primingRate : UInt64 := 999999999

/-- The plan of the priming message. -/
def primingPlan : Plan := ⟨1, primingRate, false⟩

/-- The plan of the warmup behind the priming message. -/
def warmupPlan (settings : PingSettings) : Plan :=
  ⟨settings.warmup.loops - 1, settings.warmup.rate, false⟩

/-- The plan of the measured messages. -/
def measuredPlan (settings : PingSettings) : Plan := ⟨settings.count, settings.rate, true⟩

/-- When messages are sent. -/
def pacing (settings : PingSettings) : Pacing :=
  match settings.delay with
  | none => .catchUp
  | some delay => .delayed delay

/-- Open the path and start its receive thread. -/
def listen (settings : PingSettings) (histogram : Histogram) : Session Unit := do
  let fault <- ask (.listen settings.path settings.receiverCpu histogram)
  match settings.path with
  | .loopback => refuse fault
  | .datagrams endpoint =>
      within (.openingTransport endpoint.bind) (refuse fault)
      notes (openedEntries endpoint)

/-- Run one plan, giving the count of messages and the pacer for the next plan. -/
def runPlan (settings : PingSettings) (steps : Nat) (plan : Plan) (pacer : Pacer) :
    Session (UInt64 × Pacer) := do
  let (result, pacer) <- ofSending (pacer.run settings.path.linkName steps plan)
  let sent <- ofExcept result
  return (sent, pacer)

/-- Send the priming message if any warmup is asked for. -/
def prime (settings : PingSettings) (steps : Nat) (pacer : Pacer) : Session Pacer := do
  if 0 < settings.warmup.loops then
    note { level := .debug, message := "sending priming message", fields := [] }
    let (_, pacer) <- settings.runPlan steps primingPlan pacer
    return pacer
  else
    return pacer

/-- Send the warmup behind the priming message. -/
def warmUp (settings : PingSettings) (steps : Nat) (pacer : Pacer) : Session Pacer := do
  if 1 < settings.warmup.loops then
    note
      { level := .debug
        message := "warming up"
        fields :=
          [ ("loops", wordText settings.warmupPlan.count),
            ("rate", wordText settings.warmup.rate) ] }
    let (_, pacer) <- settings.runPlan steps settings.warmupPlan pacer
    return pacer
  else
    return pacer

/-- What the sending side of a measurement has done. -/
structure Sent where
  count : UInt64
  /-- How long sending the measured messages took. -/
  duration : UInt64
  largestBurst : UInt64

/-- Send all messages, linger and close the path. -/
def sendAll (settings : PingSettings) (steps : Nat) : Session Sent := do
  note
    { level := .info
      message := "ping transport ready"
      fields := [("transport", settings.path.text)] }
  let created <-
    ofExcept ((Pacer.create settings.pacing settings.length).mapError fun fault =>
      Failure.ofCause (.config fault))
  let primed <- settings.prime steps created
  ofSending (Sending.wait settings.pause)
  let warm <- settings.warmUp steps primed
  ask .resetSamples
  let start <- ofSending (Sending.readClock .schedule)
  let (count, pacer) <- settings.runPlan steps settings.measuredPlan warm
  let finish <- ofSending (Sending.readClock .schedule)
  if ¬ settings.linger.isZero then
    ofSending (Sending.wait settings.linger)
  within .closing do
    refuse (<- ask .close)
  return ⟨count, Word.minus finish start, pacer.largestBurst⟩

/-- The diagnostics of counts that deserve one. -/
def countEntries (counts : ReceiveCounts) : List Log.Entry :=
  let ignored : List Log.Entry :=
    if 0 < counts.ignored then
      [ { level := .warning
          message := "duplicate or unmatched echoes were ignored"
          fields := [("ignored", wordText counts.ignored)] } ]
    else
      []
  let rejected : List Log.Entry :=
    if 0 < counts.rejected then
      [ { level := .warning
          message := "negative round-trip samples were discarded"
          fields := [("rejected", wordText counts.rejected)] } ]
    else
      []
  ignored ++ rejected

/-- The diagnostic of a complete measurement. -/
def completeEntry (metrics : SendMetrics) : Log.Entry where
  level := .info
  message := "ping complete"
  fields :=
    [ ("rate", SendMetrics.rateText metrics.rate),
      ("duration", (Duration.ofNanos metrics.duration).text) ]

/-- Report what was sent and received. -/
def report (sent : Sent) : Session PingResult := do
  let counts <- ask .counts
  if counts.received = 0 then
    throw (Failure.ofCause .nothingReceived)
  notes (countEntries counts)
  let peak <- ask (.sending .peak)
  let metrics := SendMetrics.measured sent.count sent.duration sent.largestBurst peak
  let histogram <- ask .histogram
  print (Report.histogram histogram)
  print (Report.sendMetrics metrics)
  print (Report.receiveCounts counts)
  note (completeEntry metrics)
  return ⟨metrics, counts, histogram⟩

/-- Measure round trips, with a bound on the clock polls of each plan. -/
def session (settings : PingSettings) (steps : Nat) : Session PingResult := do
  print settings.parameters
  let histogram <- createHistogram settings.geometry
  match settings.senderCpu with
  | none => pure ()
  | some cpu => within (.bindingSender cpu) (bindThread cpu)
  settings.listen histogram
  let sent <- besideReceiver (settings.sendAll steps)
  stopReceiver
  report sent

end PingSettings
end LatencyMeter

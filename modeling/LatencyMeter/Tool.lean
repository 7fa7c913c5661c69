import LatencyMeter.Options.Detail
import LatencyMeter.RunRecord
import LatencyMeter.Session.Jitter
import LatencyMeter.Session.Ping
import LatencyMeter.Session.Pong
import LatencyMeter.Threads

/-!
# The tool

The tool reads its command line, checks the settings, runs one session and stores a
record of a measurement if it is asked to. It succeeds with exit code 0; any failure
is a diagnostic and exit code 1, and a command line that it cannot use is exit
code 2.
-/

namespace LatencyMeter

/-- The name of the tool on its command line. -/
def toolName : String := "um-lat"

/-- The component that all diagnostics of the tool come from. -/
def toolComponent : String := "um_lat"

/-- The exit code of a run that failed. -/
def failureCode : Nat := 1

/-- The exit code for a command line that is not a run. -/
def Options.Fault.exitCode : Options.Fault -> Nat
  | .helpWanted => 0
  | .versionWanted => 0
  | _ => 2

/-- What the tool prints when asked for its version. -/
def versionText : String := toolName ++ " " ++ toolVersion ++ "\n"

/-- The diagnostic of a failure that ends the tool. -/
def Failure.entry (failure : Failure) : Log.Entry where
  level := .error
  message := failure.text
  fields := []

/-- What the tool does, once its settings have been checked. -/
inductive Task
  | ping (settings : PingSettings) (outputFile : Option String)
  | pong (settings : PongSettings)
  | jitter (settings : JitterSettings)

/-- The task of a command, unless its settings are refused. -/
def Command.task : Command -> Except ConfigFault Task
  | .ping options => do
      let settings <- options.settings
      return .ping settings options.outputFile
  | .pong options => do
      let settings <- options.settings
      return .pong settings
  | .jitter options => do
      let settings <- options.settings
      return .jitter settings

/-- The cores that are looked at while the settings of a command are checked. -/
def Command.checkedCpus : Command -> List (Option UInt64)
  | .ping options =>
      match options.checkLoad with
      | .ok _ => [options.senderCpu, options.receiverCpu]
      | .error _ => []
  | .pong options => [options.receiverCpu]
  | .jitter options =>
      match options.checkMeasurement with
      | .ok _ => [options.cpu]
      | .error _ => []

/-- The task of an invocation, and the diagnostics on the way to it. -/
def Invocation.prepare (cores : UInt64) (invocation : Invocation) :
    List Log.Entry × Except Failure Task :=
  (Options.Detail.entry invocation ::
      Check.coreEntries cores invocation.command.checkedCpus,
    invocation.command.task.mapError fun fault => Failure.ofCause (.config fault))

namespace Task

/-- The session of a task, which yields the result of a measurement if it is one. -/
def session (steps : Nat) : Task -> Session (Option PingResult)
  | .ping settings _ => do
      let result <- settings.session steps
      return some result
  | .pong settings => do
      settings.session
      return none
  | .jitter settings => do
      let _ <- settings.session steps
      return none

/-- The record that a finished task is asked to store, and where. -/
def record? (time : Timestamp) (info : HostInfo) (result : Option PingResult) :
    Task -> Option (String × RunRecord)
  | .ping settings (some path) =>
      result.map fun result =>
        (path, RunRecord.ofRun time info settings result.send result.receive result.histogram)
  | _ => none

end Task

/-- The diagnostic of a record that was stored. -/
def RunRecord.storedEntry (path : String) : Log.Entry where
  level := .info
  message := "results written"
  fields := [("path", path)]

/-- What a run of the tool leaves behind. -/
structure RunOutcome where
  exitCode : Nat
  transcript : Transcript
  /-- The record that was stored, and where. -/
  record : Option (String × RunRecord)

namespace RunOutcome

/-- A run that failed after some utterances. -/
def failed (transcript : Transcript) (failure : Failure) : RunOutcome :=
  ⟨failureCode, transcript.push (.diagnostic failure.entry), none⟩

/-- A run that succeeded, with the record that it stored. -/
def succeeded (transcript : Transcript) (record : Option (String × RunRecord)) : RunOutcome :=
  match record with
  | none => ⟨0, transcript, none⟩
  | some (path, record) =>
      ⟨0, transcript.push (.diagnostic (RunRecord.storedEntry path)), some (path, record)⟩

end RunOutcome

/-- Run an invocation on a host that stores any record, with bounds on polls and turns. -/
def Invocation.run (steps turns : Nat) (time : Timestamp) (info : HostInfo) (host : Host)
    (invocation : Invocation) : Option RunOutcome :=
  let (entries, prepared) := invocation.prepare info.cores
  let host := host.keep (entries.map .diagnostic)
  match prepared with
  | .error failure => some (.failed host.transcript failure)
  | .ok task =>
      let ended := (Threads.start (task.session steps) host).run turns
      ended.result?.map fun result =>
        match result with
        | .error failure => .failed ended.host.transcript failure
        | .ok result => .succeeded ended.host.transcript (task.record? time info result)

end LatencyMeter

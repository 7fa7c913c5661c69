import LatencyMeter.Schedule
import LatencyMeter.Sending

/-!
# Pacers

A pacer sends the messages of a plan. The catch-up pacer polls the clock and, each
time, sends in one burst all messages that the schedule has made due; it never
waits otherwise. The delayed pacer ignores the rate and waits a fixed time between
any two messages. Both use one buffer for all messages of all runs, and both
remember the largest burst of their last successful run.
-/

namespace LatencyMeter

/-- How many messages to send, how many per second, and whether to stamp them. -/
structure Plan where
  count : UInt64
  rate : UInt64
  timestamp : Bool
  deriving DecidableEq, Repr

/-- When a pacer sends the messages of a plan. -/
inductive Pacing
  | catchUp
  | delayed (delay : Duration)

/-- A sender of planned messages. -/
structure Pacer where
  pacing : Pacing
  buffer : Buffer
  /-- The largest burst of the last successful run. -/
  largestBurst : UInt64

namespace Pacer

/-- A pacer for messages of a length, which must have room for a header. -/
def create (pacing : Pacing) (length : UInt64) : Except ConfigFault Pacer :=
  if fits : Header.size ≤ length.toNat then
    .ok ⟨pacing, Buffer.zeroed length.toNat fits, 0⟩
  else
    .error (.messageTooShort length (UInt64.ofNat Header.size))

/-- How far a run has come. -/
structure Progress where
  sent : UInt64
  largest : UInt64
  buffer : Buffer

/-- Send a number of messages in a row. -/
def burst (linkName : String) (timestamp : Bool) :
    Nat -> Progress -> Sending (Option Failure × Progress)
  | 0, progress => return (none, progress)
  | remaining + 1, progress => do
      let (fault, buffer) <- Sending.launch timestamp progress.buffer
      match fault with
      | some fault =>
          let failure <-
            Sending.refused linkName .pacedLoop progress.sent progress.largest fault
          return (some failure, { progress with buffer := buffer })
      | none =>
          burst linkName timestamp remaining
            { progress with sent := progress.sent + 1, buffer := buffer }

/-- Send what is due at a clock reading, read the clock again, and so on until all is sent. -/
def catchUpFrom (linkName : String) (plan : Plan) (start : UInt64) :
    Nat -> UInt64 -> Progress -> Sending (Option Failure × Progress)
  | 0, _, progress =>
      if progress.sent < plan.count then .unfinished else return (none, progress)
  | steps + 1, now, progress =>
      if progress.sent < plan.count then do
        let due := Schedule.due (Word.minus now start) plan.rate plan.count
        let missing := Word.minus due progress.sent
        let largest := if progress.largest < missing then missing else progress.largest
        let (failure, progress) <-
          burst linkName plan.timestamp missing.toNat { progress with largest := largest }
        match failure with
        | some failure => return (some failure, progress)
        | none =>
            let now <- Sending.readClock .schedule
            catchUpFrom linkName plan start steps now progress
      else
        return (none, progress)

/-- Send a number of messages with a delay before each but the first of the run. -/
def delayedFrom (linkName : String) (delay : Duration) (plan : Plan) :
    Nat -> Progress -> Sending (Option Failure × Progress)
  | 0, progress => return (none, progress)
  | remaining + 1, progress => do
      if 0 < progress.sent then
        Sending.wait delay
      let (fault, buffer) <- Sending.launch plan.timestamp progress.buffer
      match fault with
      | some fault =>
          let failure <-
            Sending.refused linkName .delayedLoop progress.sent progress.largest fault
          return (some failure, { progress with buffer := buffer })
      | none =>
          delayedFrom linkName delay plan remaining
            { progress with sent := progress.sent + 1, buffer := buffer }

/-- The diagnostic of a completed run. -/
def completed (pacing : Pacing) (plan : Plan) (progress : Progress) : Log.Entry :=
  match pacing with
  | .catchUp =>
      { level := .debug
        message := "paced loop complete"
        fields :=
          [("sent", wordText progress.sent), ("max_tight_sends", wordText progress.largest),
            ("rate", wordText plan.rate)] }
  | .delayed delay =>
      { level := .debug
        message := "delayed loop complete"
        fields := [("sent", wordText plan.count), ("delay", delay.exactText)] }

/-- The sending loop of a plan, with a bound on the clock polls of the catch-up pacer. -/
def loop (linkName : String) (steps : Nat) (plan : Plan) (pacer : Pacer) :
    Sending (Option Failure × Progress) :=
  match pacer.pacing with
  | .catchUp => do
      let start <- Sending.readClock .schedule
      catchUpFrom linkName plan start steps start ⟨0, 0, pacer.buffer⟩
  | .delayed delay =>
      delayedFrom linkName delay plan plan.count.toNat
        ⟨0, if plan.count = 0 then 0 else 1, pacer.buffer⟩

/-- Run a plan to its end, or to the first message that the transport refuses. -/
def run (linkName : String) (steps : Nat) (plan : Plan) (pacer : Pacer) :
    Sending (Except Failure UInt64 × Pacer) := do
  let (failure, progress) <- loop linkName steps plan pacer
  match failure with
  | some failure => return (.error failure, { pacer with buffer := progress.buffer })
  | none =>
      Sending.note (completed pacer.pacing plan progress)
      return (.ok progress.sent,
        { pacer with buffer := progress.buffer, largestBurst := progress.largest })

end Pacer
end LatencyMeter

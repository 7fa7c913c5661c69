import LatencyMeter.Log
import LatencyMeter.Payload
import LatencyMeter.Report

/-!
# Streams and their reporters

A transport hands what it receives to a handler as events of a stream: the stream
begins with its first message, carries messages, may lose some, and ends. The
source of a stream inside the process is unnamed.

A reporter does what a receive thread does beside its work: it binds the thread to
a core when a stream begins, and writes a line when one begins or ends. A refused
bind or write is a diagnostic and nothing else.
-/

namespace LatencyMeter

/-- What a transport delivers to the handler of its messages. -/
inductive StreamEvent
  | beginOfStream (source : Option SocketAddress)
  | data (payload : Payload) (receivedAt : UInt64) (source : Option SocketAddress)
      (retransmit : Bool)
  | loss
  | endOfStream (source : Option SocketAddress)
  deriving DecidableEq

/-- An output for lines, some of which it may refuse. -/
structure Journal where
  /-- Why a line is refused, by its number, if it is. -/
  refusal : Nat -> Option String
  writes : Nat
  lines : Array String

namespace Journal

/-- An output that refuses nothing. -/
def willing : Journal := ⟨fun _ => none, 0, #[]⟩

/-- Write a line. -/
def write (journal : Journal) (line : String) : Option String × Journal :=
  match journal.refusal journal.writes with
  | none =>
      (none, { journal with writes := journal.writes + 1, lines := journal.lines.push line })
  | some reason => (some reason, { journal with writes := journal.writes + 1 })

/-- All text written so far. -/
def text (journal : Journal) : String :=
  String.join journal.lines.toList

end Journal

/-- Which cores the operating system lets a thread bind to, by the earlier attempts. -/
structure Binder where
  accepts : List UInt64 -> UInt64 -> Bool
  /-- The cores asked for so far, in order. -/
  attempts : List UInt64

namespace Binder

/-- Ask for a core. -/
def bind (binder : Binder) (core : UInt64) : Bool × Binder :=
  (binder.accepts binder.attempts core,
    { binder with attempts := binder.attempts ++ [core] })

end Binder

/-- What a receive thread does beside handling messages. -/
structure Reporter where
  /-- The core to bind the thread to, if any. -/
  cpu : Option UInt64
  binder : Binder
  events : Journal
  log : Array Log.Entry

namespace Reporter

/-- Write a diagnostic. -/
def note (reporter : Reporter) (entry : Log.Entry) : Reporter :=
  { reporter with log := reporter.log.push entry }

/-- Bind the thread to its core. -/
def bindThread (reporter : Reporter) : Reporter :=
  match reporter.cpu with
  | none => reporter
  | some cpu =>
      let (accepted, binder) := reporter.binder.bind cpu
      let bound := { reporter with binder := binder }
      if accepted then
        bound
      else
        bound.note
          { level := .error
            message := "failed to bind receive thread"
            fields :=
              [("cpu", wordText cpu), ("error", (AffinityFault.bindRejected cpu).message)] }

/-- Write a line of the stream, with a diagnostic when it is refused. -/
def writeLine (reporter : Reporter) (complaint line : String) : Reporter :=
  match reporter.events.write line with
  | (none, events) => { reporter with events := events }
  | (some reason, events) =>
      { reporter with events := events }.note
        { level := .warning, message := complaint, fields := [("error", reason)] }

/-- Attend to a stream that begins. -/
def streamBegins (reporter : Reporter) (source : Option SocketAddress) : Reporter :=
  reporter.bindThread.writeLine "failed to report begin of stream" (Report.beginOfStream source)

/-- Attend to a stream that ends. -/
def streamEnds (reporter : Reporter) (source : Option SocketAddress) (counts : ReceiveCounts) :
    Reporter :=
  reporter.writeLine "failed to report end of stream" (Report.endOfStream source counts)

/-- Attend to what a stream delivers, given the counts of the stream. -/
def attend (reporter : Reporter) (counts : ReceiveCounts) : StreamEvent -> Reporter
  | .beginOfStream source => reporter.streamBegins source
  | .endOfStream source => reporter.streamEnds source counts
  | _ => reporter

end Reporter
end LatencyMeter

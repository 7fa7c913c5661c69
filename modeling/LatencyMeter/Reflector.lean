import LatencyMeter.Stream
import LatencyMeter.Text.Quoted

/-!
# Reflectors

A reflector sends every message it receives back unchanged. The first message that
the transport refuses ends the echoing for good, but messages are still counted.
The thread that owns the reflector is notified of that failure and, when asked to,
of every end of a stream; it leaves at the first notification.

`Reflection` is the echoing and `Reflector` the echoing together with its reporter.
-/

namespace LatencyMeter

/-- What a reflector tells the thread that owns it. -/
inductive Notification
  | endOfStream (source : Option SocketAddress)
  | sendFailed (reason : String)
  deriving DecidableEq

/-- The source of a stream in a diagnostic. -/
def sourceDetail (source : Option SocketAddress) : String :=
  match source with
  | none => "None"
  | some address => "Some(" ++ address.text ++ ")"

/-- The text of a notification in a diagnostic. -/
def Notification.detail : Notification -> String
  | .endOfStream source => "EndOfStream \x7b source: " ++ sourceDetail source ++ " \x7d"
  | .sendFailed reason => "SendFailed \x7b error: " ++ Text.quoted reason ++ " \x7d"

/-- The echoing of messages. -/
structure Reflection where
  /-- Why the transport refuses an echo, by the number of the attempt, if it does. -/
  link : Nat -> Payload -> Option TransportFault
  exitOnEnd : Bool
  attempts : Nat
  /-- The echoes that the transport accepted, in order. -/
  echoed : Array Payload
  counts : ReceiveCounts
  failed : Bool

/-- The echoing after an event, with the notification to send and the refusal, if any. -/
structure Reflection.Step where
  state : Reflection
  notification : Option Notification
  refusal : Option TransportFault

namespace Reflection

/-- Echo one message, unless an echo has failed before. -/
def onData (state : Reflection) (payload : Payload) (retransmit : Bool) : Step :=
  let counted := { state with counts := state.counts.addMessage retransmit }
  if state.failed then
    ⟨counted, none, none⟩
  else
    let tried := { counted with attempts := state.attempts + 1 }
    match state.link state.attempts payload with
    | none => ⟨{ tried with echoed := tried.echoed.push payload }, none, none⟩
    | some fault => ⟨{ tried with failed := true }, some (.sendFailed fault.message), some fault⟩

/-- Handle one event of the stream. -/
def deliver (state : Reflection) : StreamEvent -> Step
  | .beginOfStream _ => ⟨{ state with counts := ReceiveCounts.zero }, none, none⟩
  | .data payload _ _ retransmit => state.onData payload retransmit
  | .loss => ⟨{ state with counts := state.counts.addLoss }, none, none⟩
  | .endOfStream source =>
      ⟨state, if state.exitOnEnd then some (.endOfStream source) else none, none⟩

end Reflection

/-- The notifications on their way to the owner of a reflector. -/
structure Mailbox where
  /-- Whether the owner still listens. -/
  attended : Bool
  waiting : List Notification

/-- The echoing, its notifications and its reporter. -/
structure Reflector where
  reflection : Reflection
  mailbox : Mailbox
  reporter : Reporter

namespace Reflector

/-- Send a notification; one that nobody waits for is a diagnostic. -/
def notify (reflector : Reflector) (notification : Notification) : Reflector :=
  if reflector.mailbox.attended then
    { reflector with
      mailbox :=
        { reflector.mailbox with waiting := reflector.mailbox.waiting ++ [notification] } }
  else
    { reflector with
      reporter :=
        reflector.reporter.note
          { level := .warning
            message := "nobody is waiting for reflector events"
            fields := [("event", notification.detail)] } }

/-- The diagnostic of a refused echo. -/
def refusalEntry (counts : ReceiveCounts) (fault : TransportFault) : Log.Entry where
  level := .error
  message := "echo send failed"
  fields := [("num_rcv_msgs", wordText counts.received), ("error", fault.message)]

/-- Handle one event of the stream. -/
def deliver (reflector : Reflector) (event : StreamEvent) : Reflector :=
  let step := reflector.reflection.deliver event
  let attended := reflector.reporter.attend reflector.reflection.counts event
  let reporter :=
    match step.refusal with
    | none => attended
    | some fault => attended.note (refusalEntry step.state.counts fault)
  let handled : Reflector := { reflector with reflection := step.state, reporter := reporter }
  match step.notification with
  | none => handled
  | some notification => handled.notify notification

@[simp] theorem reflection_deliver (reflector : Reflector) (event : StreamEvent) :
    (reflector.deliver event).reflection = (reflector.reflection.deliver event).state := by
  unfold deliver notify
  dsimp only
  split
  · rfl
  · split <;> rfl

end Reflector

/-- How the owner of a reflector leaves, given the next notification if there is one. -/
def Notification.exit : Option Notification -> Except Failure (Option Log.Entry)
  | some (.endOfStream source) =>
      .ok (some
        { level := .info
          message := "stream ended, exiting"
          fields := [("source", sourceDetail source)] })
  | some (.sendFailed reason) => .error (Failure.ofCause (.echoFailed reason))
  | none => .error (Failure.ofCause .reflectorStopped)

end LatencyMeter

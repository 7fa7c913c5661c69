import LatencyMeter.Proofs.Reflector
import LatencyMeter.Proofs.Relay.Inbox

/-!
# Samples over an unreliable path

Threads that run pacers send through a channel to a reflector, and the reflector sends
through another channel to a receive thread that shares the flight counters with them. A
channel holds everything that was put into it, and any of it may come out at any time
and any number of times: so messages are lost, duplicated, delayed and reordered, but
none is altered or invented. Every thread takes its steps one at a time.

Whatever the order of the steps, each sample belongs to one stamped message and runs
from its stamp to the arrival of its accepted echo.
-/

namespace LatencyMeter

/-- A forwarded message, with the position of the message it is a copy of. -/
structure Letter where
  origin : Nat
  payload : Payload
  deriving DecidableEq, Repr

/-- Sending threads, a reflector, a receive thread and the channels between them. -/
structure Relay where
  /-- The sending threads, and what they put into the first channel. -/
  outbox : Outbox
  reflection : Reflection
  /-- What the reflector put into the second channel. -/
  letters : List Letter
  inbox : Inbox

namespace Relay

/-- An event of a stream that carries no message. -/
inductive Signal
  | beginOfStream (source : Option SocketAddress)
  | loss
  | endOfStream (source : Option SocketAddress)

/-- The signal as an event. -/
def Signal.event : Signal -> StreamEvent
  | .beginOfStream source => .beginOfStream source
  | .loss => .loss
  | .endOfStream source => .endOfStream source

/-- What may happen next. -/
inductive Move
  /-- A pacer begins to run a plan on a thread of its own. -/
  | begin (linkName : String) (steps : Nat) (plan : Plan) (pacer : Pacer)
  /-- A sending thread takes a step. -/
  | advance (index : Nat) (choice : Sending.Choice)
  /-- A sent message reaches the reflector. -/
  | reflect (position : Nat) (receivedAt : UInt64) (source : Option SocketAddress)
      (retransmit : Bool)
  | signalReflector (signal : Signal)
  /-- A forwarded message reaches the receive thread. -/
  | receive (position : Nat) (receivedAt : UInt64) (source : Option SocketAddress)
      (retransmit : Bool)
  | signalReceiver (signal : Signal)
  /-- The receive thread takes a step. -/
  | handle
  /-- The histogram is reset. -/
  | reset

/-- Nothing has happened, but for what the reflector may have done before. -/
def start (histogram : Histogram) (reflection : Reflection) : Relay :=
  ⟨Outbox.start, reflection, [], Inbox.start histogram⟩

/-- Make a move. -/
def step (relay : Relay) : Move -> Relay
  | .begin linkName steps plan pacer =>
      { relay with outbox := relay.outbox.begin linkName steps plan pacer }
  | .advance index choice =>
      let (outbox, flight) := relay.outbox.advance index choice relay.inbox.receiver.flight
      { relay with outbox := outbox, inbox := relay.inbox.withFlight flight }
  | .reflect position receivedAt source retransmit =>
      match relay.outbox.sent[position]? with
      | none => relay
      | some message =>
          let event : StreamEvent := .data message.payload receivedAt source retransmit
          { relay with
            reflection := (relay.reflection.deliver event).state
            letters :=
              relay.letters ++ (relay.reflection.forwarded event).map (Letter.mk position) }
  | .signalReflector signal =>
      { relay with reflection := (relay.reflection.deliver signal.event).state }
  | .receive position receivedAt source retransmit =>
      match relay.letters[position]? with
      | none => relay
      | some letter =>
          { relay with
            inbox :=
              relay.inbox.receive ⟨letter.origin, receivedAt⟩ letter.payload source
                retransmit }
  | .signalReceiver signal => { relay with inbox := relay.inbox.hear signal.event }
  | .handle => { relay with inbox := relay.inbox.handle }
  | .reset => { relay with inbox := relay.inbox.reset }

/-- What some moves lead to. -/
def ofMoves (histogram : Histogram) (reflection : Reflection) (moves : List Move) : Relay :=
  moves.foldl step (start histogram reflection)

/-! ## What every move preserves -/

/-- The parts are sound, and every letter is a copy of the message that it stems from. -/
structure Sound (relay : Relay) : Prop where
  outbox : relay.outbox.Sound
  copied : forall letter, letter ∈ relay.letters ->
    exists message, relay.outbox.sent[letter.origin]? = some message ∧
      letter.payload = message.payload
  inbox : relay.inbox.Sound relay.outbox.sent relay.outbox.raised

theorem sound_start (histogram : Histogram) (reflection : Reflection) :
    (start histogram reflection).Sound where
  outbox := Outbox.sound_start
  copied := by
    intro letter member
    exact absurd member List.not_mem_nil
  inbox := Inbox.sound_start histogram

namespace Sound

variable {relay : Relay}

theorem step_advance
    (sound : relay.Sound)
    (index : Nat)
    (choice : Sending.Choice) :
    (relay.step (.advance index choice)).Sound := by
  let flight := relay.inbox.receiver.flight
  have grows := Outbox.sent_isPrefix_advance relay.outbox index choice flight
  obtain ⟨more, raised, outstanding⟩ :=
    Outbox.outstanding_advance relay.outbox index choice flight
  refine ⟨sound.outbox.advance index choice flight, ?_, ?_⟩
  · intro letter member
    obtain ⟨message, position, same⟩ := sound.copied letter member
    exact ⟨message, Outbox.getElem?_of_isPrefix grows position, same⟩
  · have inbox := (sound.inbox.mono grows).withFlight outstanding
    rw [← raised] at inbox
    exact inbox

/-- The reflector forwards only copies of the message that has reached it. -/
theorem step_reflect
    (sound : relay.Sound)
    (position : Nat)
    (receivedAt : UInt64)
    (source : Option SocketAddress)
    (retransmit : Bool) :
    (relay.step (.reflect position receivedAt source retransmit)).Sound := by
  unfold step
  dsimp only
  split
  · exact sound
  · next message present =>
    refine ⟨sound.outbox, ?_, sound.inbox⟩
    intro letter member
    rcases List.mem_append.mp member with earlier | latest
    · exact sound.copied letter earlier
    · obtain ⟨payload, forwarded, rfl⟩ := List.mem_map.mp latest
      exact ⟨message, present, Reflection.eq_of_forwarded forwarded⟩

theorem step_receive
    (sound : relay.Sound)
    (position : Nat)
    (receivedAt : UInt64)
    (source : Option SocketAddress)
    (retransmit : Bool) :
    (relay.step (.receive position receivedAt source retransmit)).Sound := by
  unfold step
  dsimp only
  split
  · exact sound
  · next letter present =>
    obtain ⟨message, origin, same⟩ := sound.copied letter (List.mem_of_getElem? present)
    have genuine := sound.outbox.genuine message (List.mem_of_getElem? origin)
    refine ⟨sound.outbox, sound.copied, ?_⟩
    rw [same]
    exact sound.inbox.receive origin genuine source retransmit

theorem step_signalReceiver (sound : relay.Sound) (signal : Signal) :
    (relay.step (.signalReceiver signal)).Sound := by
  refine ⟨sound.outbox, sound.copied, sound.inbox.hear ?_⟩
  intro payload receivedAt source retransmit
  cases signal <;> simp [Signal.event]

/-- Every move keeps a relay sound. -/
theorem step (sound : relay.Sound) (move : Move) : (relay.step move).Sound := by
  cases move with
  | begin linkName steps plan pacer =>
      exact ⟨sound.outbox.begin linkName steps plan pacer, sound.copied, sound.inbox⟩
  | advance index choice => exact sound.step_advance index choice
  | reflect position receivedAt source retransmit =>
      exact sound.step_reflect position receivedAt source retransmit
  | signalReflector signal => exact ⟨sound.outbox, sound.copied, sound.inbox⟩
  | receive position receivedAt source retransmit =>
      exact sound.step_receive position receivedAt source retransmit
  | signalReceiver signal => exact sound.step_signalReceiver signal
  | handle =>
      exact ⟨sound.outbox, sound.copied, sound.inbox.handle sound.outbox.length_sent_le⟩
  | reset => exact ⟨sound.outbox, sound.copied, sound.inbox.reset⟩

end Sound

theorem sound_ofMoves
    (histogram : Histogram)
    (reflection : Reflection)
    (moves : List Move) :
    (ofMoves histogram reflection moves).Sound := by
  unfold ofMoves
  induction moves using List.reverseRecOn with
  | nil => exact sound_start histogram reflection
  | append_singleton earlier latest hypothesis =>
      rw [List.foldl_append]
      exact hypothesis.step latest

/-- In every run over an unreliable path, a confirmation is a fault only if the messages
unconfirmed at once outgrow the counter, and each number is accepted at most once. The
histogram was handed, in order, samples each of which comes from an accepted echo of a
stamped message and runs from exactly its stamp. No message has two samples, so there
are no more samples than stamped messages. -/
theorem samples_have_provenance
    (histogram : Histogram)
    (reflection : Reflection)
    (moves : List Move) :
    let relay := ofMoves histogram reflection moves
    let inbox := relay.inbox
    (forall cause, inbox.receiver.point = .crashed cause ->
        inbox.accepted.length + 2 ^ 63 ≤ relay.outbox.raised) ∧
      inbox.accepted.length ≤ relay.outbox.raised ∧
      inbox.accepted.Nodup ∧
      inbox.receiver.roundTrip.histogram = inbox.recent.foldr Sample.record inbox.blank ∧
      (forall sample, sample ∈ inbox.samples ->
        sample.receipt ∈ inbox.receipts ∧
          exists message, relay.outbox.sent[sample.origin]? = some message ∧
            message.Genuine ∧ sample.BelongsTo message) ∧
      (inbox.samples.map Sample.origin).Nodup ∧
      inbox.samples.length ≤ relay.outbox.sent.countP Message.timestamp := by
  intro relay inbox
  have sound : relay.Sound := sound_ofMoves histogram reflection moves
  refine ⟨sound.inbox.exhausted, ?_, sound.inbox.agrees.nodup, sound.inbox.recorded, ?_,
    sound.inbox.nodup_origins, sound.inbox.length_samples_le⟩
  · exact Nat.le_trans sound.inbox.length_accepted_le sound.outbox.length_sent_le
  · intro sample member
    have receipts := (List.sublist_append_right _ _).trans sound.inbox.settled
    obtain ⟨message, origin, belongs⟩ := sound.inbox.sampled sample member
    have genuine := sound.outbox.genuine message (List.mem_of_getElem? origin)
    exact ⟨receipts.subset (List.mem_map_of_mem member), message, origin, genuine, belongs⟩

/-- A stamped message is reflected twice, and the echoes arrive in the wrong order. -/
example :
    let pacer : Pacer := ⟨.catchUp, Buffer.zeroed 20 (by decide), 0⟩
    let reflection : Reflection :=
      ⟨fun _ _ => none, false, 0, #[], ReceiveCounts.zero, false⟩
    let sends := .begin "link" 1 ⟨1, 1, true⟩ pacer ::
      List.replicate 8 (Move.advance 0 ⟨5, none⟩)
    let reflects := [Move.reflect 0 6 none false, .reflect 0 7 none false]
    let receives := [Move.receive 1 9 none false, .handle, .handle, .handle,
      .receive 0 11 none false, .handle, .handle, .handle]
    (ofMoves default reflection (sends ++ reflects ++ receives)).inbox.samples =
      [⟨0, ⟨0, 5, 9⟩⟩] := by
  decide +kernel

end Relay
end LatencyMeter

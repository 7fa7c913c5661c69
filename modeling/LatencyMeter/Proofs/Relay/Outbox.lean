import LatencyMeter.Proofs.Flight
import LatencyMeter.Proofs.Sending.Draft

/-!
# Sending threads on shared counters

Any number of threads run pacers on the same flight counters. They take their steps one
at a time and in any order, with the clock and the transport answering as they like. An
outbox keeps what each of them has left to do, and what an observer has seen: the
messages that the transport accepted, and how often the count of unconfirmed messages
was raised.

Every message is what its thread was told while preparing it, and was counted as
unconfirmed before it was handed over. So there never are more messages than raises.
-/

namespace LatencyMeter

/-- A message that the transport accepted. -/
structure Message where
  /-- Whether its thread stamps messages. -/
  timestamp : Bool
  /-- The count of sent messages that its thread was told. -/
  number : UInt64
  /-- The clock reading for it, if one was made. -/
  stamp : Option UInt64
  payload : Payload
  deriving DecidableEq, Repr

namespace Message

/-- The header that the message should have. -/
def header (message : Message) : Header :=
  ⟨message.number, message.stamp.getD 0, Sending.flagsFor message.timestamp⟩

/-- The message has its header, and a stamp exactly if its thread stamps messages. -/
structure Genuine (message : Message) : Prop where
  stamped : message.stamp.isSome = message.timestamp
  decoded : Header.decode message.payload = .ok message.header

/-- A message says that it carries its send time exactly if its thread stamps messages. -/
theorem isTimestamped_header (message : Message) :
    message.header.isTimestamped = message.timestamp := by
  unfold header Header.isTimestamped Sending.flagsFor
  cases message.timestamp with
  | false =>
      dsimp only
      decide
  | true =>
      dsimp only
      decide

/-- The send time of a stamped message is its clock reading. -/
theorem Genuine.stamp_eq
    {message : Message}
    (genuine : message.Genuine)
    (timestamp : message.timestamp = true) :
    message.stamp = some message.header.sentAt := by
  have stamped := genuine.stamped.trans timestamp
  obtain ⟨time, stamp⟩ := Option.isSome_iff_exists.mp stamped
  rw [header, stamp]
  rfl

end Message

/-- A thread that runs a pacer. -/
structure Sender where
  timestamp : Bool
  /-- What it has left to do. -/
  rest : Sending (Except Failure UInt64 × Pacer)
  draft : Draft

namespace Sender

/-- The message that an answered request hands over, if the transport accepted it. -/
def handsOver (sender : Sender) : (request : Sending.Request) -> request.Answer -> List Message
  | .transmit payload, none =>
      [⟨sender.timestamp, sender.draft.number, sender.draft.stamp, payload⟩]
  | _, _ => []

/-- Whatever the thread hands over is described by its draft. -/
def Faithful (sender : Sender) : Prop :=
  Sending.Faithful sender.timestamp sender.draft sender.rest

/-- How many of the messages counted as unconfirmed it has still to hand over. -/
def held (sender : Sender) : Nat := if sender.draft.counted then 1 else 0

variable {sender : Sender} {request : Sending.Request}
variable {next : request.Answer -> Sending (Except Failure UInt64 × Pacer)}

theorem genuine_of_handsOver
    (faithful : sender.Faithful)
    (asks : sender.rest = .ask request next)
    {answer : request.Answer}
    {message : Message}
    (handed : message ∈ sender.handsOver request answer) :
    message.Genuine := by
  unfold Faithful at faithful
  rw [asks] at faithful
  obtain ⟨describes, _⟩ := faithful
  cases request with
  | transmit payload =>
      cases answer with
      | none =>
          obtain rfl := List.mem_singleton.mp handed
          obtain ⟨_, stamped, decoded⟩ := describes payload rfl
          exact ⟨stamped, decoded⟩
      | some fault => exact absurd handed List.not_mem_nil
  | _ => exact absurd handed List.not_mem_nil

/-- A message is handed over only after it was counted as unconfirmed. -/
theorem length_handsOver_le
    (faithful : sender.Faithful)
    (asks : sender.rest = .ask request next)
    (answer : request.Answer) :
    (sender.handsOver request answer).length +
        (Sender.mk sender.timestamp (next answer) (sender.draft.after request answer)).held ≤
      sender.held + request.raises := by
  unfold Faithful at faithful
  rw [asks] at faithful
  obtain ⟨describes, _⟩ := faithful
  have kept : 0 + sender.held ≤ sender.held := Nat.le_of_eq (Nat.zero_add sender.held)
  cases request with
  | transmit payload =>
      obtain ⟨counted, _⟩ := describes payload rfl
      cases answer with
      | none => simp [handsOver, held, Draft.after, counted]
      | some fault => simp [handsOver, held, Draft.after]
  | total => simp [handsOver, held, Draft.after]
  | raiseOutstanding => simp [handsOver, held, Draft.after, Sending.Request.raises]
  | clock purpose => cases purpose <;> exact kept
  | _ => exact kept

end Sender

/-- Sending threads and what an observer has seen of them. -/
structure Outbox where
  senders : List Sender
  /-- The messages that the transport accepted, in order. -/
  sent : List Message
  /-- How often the count of unconfirmed messages was raised. -/
  raised : Nat

namespace Outbox

/-- No thread has begun. -/
def start : Outbox := ⟨[], [], 0⟩

/-- Begin to run a pacer on a thread of its own. -/
def begin
    (outbox : Outbox)
    (linkName : String)
    (steps : Nat)
    (plan : Plan)
    (pacer : Pacer) :
    Outbox :=
  { outbox with
    senders :=
      outbox.senders ++ [⟨plan.timestamp, pacer.run linkName steps plan, Draft.blank⟩] }

/-- Take one step of a thread, which may change the shared counters. -/
def advance
    (outbox : Outbox)
    (index : Nat)
    (choice : Sending.Choice)
    (flight : Flight) :
    Outbox × Flight :=
  match outbox.senders[index]? with
  | none => (outbox, flight)
  | some sender =>
      match sender.rest with
      | .ask request next =>
          let (answer, changed) := Flight.answer choice request flight
          ({ senders :=
              outbox.senders.set index
                ⟨sender.timestamp, next answer, sender.draft.after request answer⟩
             sent := outbox.sent ++ sender.handsOver request answer
             raised := outbox.raised + request.raises }, changed)
      | _ => (outbox, flight)

/-- The threads are faithful, the messages are genuine, and every message sent or held
has raised the count of unconfirmed messages. -/
structure Sound (outbox : Outbox) : Prop where
  faithful : forall sender, sender ∈ outbox.senders -> sender.Faithful
  genuine : forall message, message ∈ outbox.sent -> message.Genuine
  counted :
    outbox.sent.length + outbox.senders.countP (fun sender => sender.draft.counted) ≤
      outbox.raised

theorem sound_start : start.Sound where
  faithful := by
    intro sender member
    exact absurd member List.not_mem_nil
  genuine := by
    intro message member
    exact absurd member List.not_mem_nil
  counted := Nat.le_refl 0

/-- What one step of a thread does to the outbox and the shared counters, if it does
anything. -/
theorem advance_cases
    (outbox : Outbox)
    (index : Nat)
    (choice : Sending.Choice)
    (flight : Flight) :
    outbox.advance index choice flight = (outbox, flight) ∨
      exists (inside : index < outbox.senders.length) (request : Sending.Request)
          (next : request.Answer -> Sending (Except Failure UInt64 × Pacer)),
        outbox.senders[index].rest = .ask request next ∧
          outbox.advance index choice flight =
            (⟨outbox.senders.set index
                ⟨outbox.senders[index].timestamp,
                  next (Flight.answer choice request flight).1,
                  outbox.senders[index].draft.after request
                    (Flight.answer choice request flight).1⟩,
                outbox.sent ++ outbox.senders[index].handsOver request
                  (Flight.answer choice request flight).1,
                outbox.raised + request.raises⟩,
              (Flight.answer choice request flight).2) := by
  unfold advance
  split
  · exact .inl rfl
  · next sender present =>
    obtain ⟨inside, rfl⟩ := List.getElem?_eq_some_iff.mp present
    split
    · next request next asks => exact .inr ⟨inside, request, next, asks, rfl⟩
    · exact .inl rfl

/-- Messages once sent stay where they are. -/
theorem sent_isPrefix_advance
    (outbox : Outbox)
    (index : Nat)
    (choice : Sending.Choice)
    (flight : Flight) :
    outbox.sent <+: (outbox.advance index choice flight).1.sent := by
  rcases advance_cases outbox index choice flight with idle | ⟨_, _, _, _, taken⟩
  · have same : (outbox.advance index choice flight).1.sent = outbox.sent := by rw [idle]
    exact ⟨[], by rw [same, List.append_nil]⟩
  · exact ⟨_, by rw [taken]⟩

theorem getElem?_of_isPrefix
    {sent more : List Message}
    (isPrefix : sent <+: more)
    {position : Nat}
    {message : Message}
    (present : sent[position]? = some message) :
    more[position]? = some message := by
  obtain ⟨inside, rfl⟩ := List.getElem?_eq_some_iff.mp present
  obtain ⟨rest, rfl⟩ := isPrefix
  rw [List.getElem?_append_left inside, List.getElem?_eq_getElem inside]

/-- The count of unconfirmed messages changes as often as the observer sees it raised. -/
theorem outstanding_advance
    (outbox : Outbox)
    (index : Nat)
    (choice : Sending.Choice)
    (flight : Flight) :
    exists more : Nat,
      (outbox.advance index choice flight).1.raised = outbox.raised + more ∧
        (outbox.advance index choice flight).2.outstanding =
          flight.outstanding + Int64.ofInt more := by
  rcases advance_cases outbox index choice flight with idle | ⟨_, request, _, _, taken⟩
  · rw [idle]
    exact ⟨0, rfl, (Int64.add_zero flight.outstanding).symm⟩
  · rw [taken]
    exact ⟨request.raises, rfl, Flight.outstanding_answer choice request flight⟩

namespace Sound

variable {outbox : Outbox}

/-- Every message was counted before it was sent. -/
theorem length_sent_le (sound : outbox.Sound) : outbox.sent.length ≤ outbox.raised :=
  Nat.le_trans (Nat.le_add_right _ _) sound.counted

theorem begin
    (sound : outbox.Sound)
    (linkName : String)
    (steps : Nat)
    (plan : Plan)
    (pacer : Pacer) :
    (outbox.begin linkName steps plan pacer).Sound where
  faithful := by
    intro sender member
    rcases List.mem_append.mp member with earlier | latest
    · exact sound.faithful sender earlier
    · obtain rfl := List.mem_singleton.mp latest
      exact Pacer.faithful_run linkName steps plan pacer Draft.blank
  genuine := sound.genuine
  counted := by
    have counted := sound.counted
    unfold Outbox.begin
    rw [List.countP_append]
    exact counted

/-- A step of a thread hands over at most the message that the thread holds. -/
theorem advance
    (sound : outbox.Sound)
    (index : Nat)
    (choice : Sending.Choice)
    (flight : Flight) :
    (outbox.advance index choice flight).1.Sound := by
  rcases advance_cases outbox index choice flight with
    idle | ⟨inside, request, next, asks, taken⟩
  · rw [idle]
    exact sound
  rw [taken]
  have faithful := sound.faithful _ (List.getElem_mem inside)
  generalize (Flight.answer choice request flight).1 = answer
  refine ⟨?_, ?_, ?_⟩
  · intro sender member
    rcases List.mem_or_eq_of_mem_set member with other | rfl
    · exact sound.faithful sender other
    · unfold Sender.Faithful at faithful
      rw [asks] at faithful
      exact faithful.2 answer
  · intro message member
    rcases List.mem_append.mp member with earlier | latest
    · exact sound.genuine message earlier
    · exact Sender.genuine_of_handsOver faithful asks latest
  · have counted := sound.counted
    have handed := Sender.length_handsOver_le faithful asks answer
    have held := List.boole_getElem_le_countP (p := fun sender : Sender => sender.draft.counted)
      inside
    unfold Sender.held at handed
    rw [List.countP_set inside, List.length_append]
    dsimp only at handed ⊢
    omega

end Sound
end Outbox
end LatencyMeter

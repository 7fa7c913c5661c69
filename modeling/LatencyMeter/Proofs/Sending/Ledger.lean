import LatencyMeter.Pacer
import LatencyMeter.Proofs.Header
import LatencyMeter.Proofs.Pacer.Filler
import LatencyMeter.Proofs.Program.Protocol

/-!
# The ledger of a sending thread

A ledger keeps what the requests of a sending thread have done: how often each counter was
raised, and which messages were handed over with what outcome. Only the sending thread
raises the count of sent messages, so the surroundings answer with it what the ledger says,
and nothing else is asked of their answers.

A stint is one run of a plan. Its protocol says how the ledger may grow: each message is
counted twice and then handed over, it carries as its number the count of messages handed
over before, and after a refused message there is no other.
-/

namespace LatencyMeter

/-- What stands in a list with one item more stood there before, or it is the last item. -/
theorem getElem?_append_singleton_cases
    {items : List α}
    {last item : α}
    {place : Nat}
    (present : (items ++ [last])[place]? = some item) :
    items[place]? = some item ∨ place = items.length ∧ item = last := by
  rw [List.getElem?_append] at present
  split at present
  · exact .inl present
  · obtain ⟨inRange, _⟩ := List.getElem?_eq_some_iff.mp present
    rw [List.length_singleton] at inRange
    exact .inr ⟨by omega, List.mem_singleton.mp (List.mem_of_getElem? present)⟩

/-- A message that was handed over, and why the transport refused it, if it did. -/
structure Handover where
  message : Payload
  fault : Option TransportFault

/-- A message that was handed over and accepted. -/
def Handover.accepted (message : Payload) : Handover := ⟨message, none⟩

/-- What the requests of a sending thread have done. -/
structure Ledger where
  /-- How often the count of sent messages was raised. -/
  raised : Nat
  /-- How often the count of unconfirmed messages was raised. -/
  counted : Nat
  handed : List Handover
  /-- The last clock reading for a stamp. -/
  stamp : UInt64

namespace Sending.Request

/-- How far the count of sent messages is ahead of those handed over when a request is made. -/
def raisedAhead : Request -> Nat
  | .raiseOutstanding | .raisePeak _ | .clock .stamp | .transmit _ => 1
  | _ => 0

/-- How far the count of unconfirmed messages is ahead of those handed over when a request
is made, confirmations apart. -/
def countedAhead : Request -> Nat
  | .raisePeak _ | .clock .stamp | .transmit _ => 1
  | _ => 0

/-- Whether a request is made on the way to handing over a message. -/
def launches : Request -> Bool
  | .raiseTotal | .raiseOutstanding | .raisePeak _ | .clock .stamp | .transmit _ => true
  | _ => false

/-- A message is counted as sent before it is counted as unconfirmed. -/
theorem countedAhead_le (request : Request) : request.countedAhead ≤ request.raisedAhead := by
  cases request with
  | clock purpose => cases purpose <;> decide
  | _ => simp [countedAhead, raisedAhead]

/-- A request that launches no message is made when no message is underway. -/
theorem ahead_of_idle
    {request : Request}
    (idle : request.launches = false) :
    request.raisedAhead = 0 ∧ request.countedAhead = 0 := by
  cases request with
  | clock purpose =>
      cases purpose with
      | stamp => contradiction
      | schedule | sample => exact ⟨rfl, rfl⟩
  | raiseTotal | raiseOutstanding | raisePeak | transmit => contradiction
  | total | peak | wait | note => exact ⟨rfl, rfl⟩

end Sending.Request

namespace Ledger

/-- Nothing was done. -/
def blank : Ledger := ⟨0, 0, [], 0⟩

/-- The ledger after one more request was answered. -/
def after (ledger : Ledger) : (request : Sending.Request) -> request.Answer -> Ledger
  | .raiseTotal, _ => { ledger with raised := ledger.raised + 1 }
  | .raiseOutstanding, _ => { ledger with counted := ledger.counted + 1 }
  | .clock .stamp, time => { ledger with stamp := time }
  | .transmit message, fault => { ledger with handed := ledger.handed ++ [⟨message, fault⟩] }
  | _, _ => ledger

/-- Every message that was counted has been handed over. -/
structure Settled (ledger : Ledger) : Prop where
  raised : ledger.raised = ledger.handed.length
  counted : ledger.counted = ledger.handed.length

/-- The counters stand as they do right before a request. -/
structure StandsBefore (ledger : Ledger) (request : Sending.Request) : Prop where
  raised : ledger.raised = ledger.handed.length + request.raisedAhead
  counted : ledger.counted = ledger.handed.length + request.countedAhead

/-- A request that launches no message leaves the ledger as it is. -/
theorem after_of_idle
    (ledger : Ledger)
    {request : Sending.Request}
    (idle : request.launches = false)
    (answer : request.Answer) :
    ledger.after request answer = ledger := by
  cases request with
  | clock purpose =>
      cases purpose with
      | stamp => contradiction
      | schedule | sample => rfl
  | raiseTotal | raiseOutstanding | raisePeak | transmit => contradiction
  | total | peak | wait | note => rfl

/-- Between messages a request that launches none may be made. -/
theorem Settled.standsBefore
    {ledger : Ledger}
    (settled : ledger.Settled)
    {request : Sending.Request}
    (idle : request.launches = false) :
    ledger.StandsBefore request := by
  obtain ⟨raised, counted⟩ := Sending.Request.ahead_of_idle idle
  constructor
  · rw [raised, settled.raised, Nat.add_zero]
  · rw [counted, settled.counted, Nat.add_zero]

/-- The header of the next message, when messages are stamped or not. -/
def header (ledger : Ledger) (timestamp : Bool) : Header :=
  ⟨UInt64.ofNat ledger.handed.length, if timestamp then ledger.stamp else 0,
    Sending.flagsFor timestamp⟩

end Ledger

/-- A run of a plan with messages of a length, after some messages were handed over. -/
structure Stint where
  before : List Handover
  plan : Plan
  length : Nat

namespace Stint

variable {stint : Stint} {messages : List Payload} {ledger : Ledger}

/-- The messages of the plan that have been handed over were all accepted. -/
structure Sent (stint : Stint) (messages : List Payload) (ledger : Ledger) : Prop where
  settled : ledger.Settled
  handed : ledger.handed = stint.before ++ messages.map Handover.accepted
  within : messages.length ≤ stint.plan.count.toNat

/-- Some messages of the plan were accepted and the next one was refused. -/
structure Refused
    (stint : Stint)
    (messages : List Payload)
    (fault : TransportFault)
    (ledger : Ledger) : Prop where
  settled : ledger.Settled
  handed : exists message,
    ledger.handed = stint.before ++ messages.map Handover.accepted ++ [⟨message, some fault⟩]
  within : messages.length < stint.plan.count.toNat

/-- No message of the plan was refused, and one is left. -/
def Open (stint : Stint) (ledger : Ledger) : Prop :=
  exists messages : List Payload,
    ledger.handed = stint.before ++ messages.map Handover.accepted ∧
      messages.length < stint.plan.count.toNat

/-- A message is the next one: it has the length of all messages and begins with the header
that the ledger gives it. -/
structure Describes (stint : Stint) (ledger : Ledger) (message : Payload) : Prop where
  length : message.length = stint.length
  decoded : Header.decode message = .ok (ledger.header stint.plan.timestamp)

/-- When a request may be made. -/
structure MayAsk (stint : Stint) (ledger : Ledger) (request : Sending.Request) : Prop where
  stands : ledger.StandsBefore request
  left : request.launches = true -> stint.Open ledger
  described : forall message, request = .transmit message -> stint.Describes ledger message

/-- Only the count of sent messages is answered as the ledger says. -/
def MayAnswer (ledger : Ledger) : (request : Sending.Request) -> request.Answer -> Prop
  | .total, number => number = UInt64.ofNat ledger.raised
  | _, _ => True

/-- The rules of a run of a plan. -/
abbrev protocol (stint : Stint) : Protocol Sending.Request.Answer Ledger where
  after := Ledger.after
  mayAsk := stint.MayAsk
  mayAnswer := MayAnswer
  mayStop ledger := exists messages, stint.Sent messages ledger

theorem Sent.isOpen
    (sent : stint.Sent messages ledger)
    (left : messages.length < stint.plan.count.toNat) :
    stint.Open ledger :=
  ⟨messages, sent.handed, left⟩

/-- A request that launches no message may be made whenever no message is underway. -/
theorem mayAsk_of_settled
    (settled : ledger.Settled)
    {request : Sending.Request}
    (idle : request.launches = false) :
    stint.protocol.mayAsk ledger request := by
  refine ⟨settled.standsBefore idle, fun launches => absurd launches (by simp [idle]), ?_⟩
  rintro message rfl
  contradiction

/-- What is left behind by a launch after some messages of the plan. -/
def Launched
    (stint : Stint)
    (messages : List Payload)
    (ledger : Ledger) :
    Option TransportFault -> Prop
  | none => exists message, stint.Sent (messages ++ [message]) ledger
  | some fault => stint.Refused messages fault ledger

/-- A message that is handed over was accepted or is refused. -/
theorem Sent.launched
    (sent : stint.Sent messages ledger)
    (left : messages.length < stint.plan.count.toNat)
    (message : Payload)
    (fault : Option TransportFault)
    (stamp : UInt64) :
    stint.Launched messages
      ⟨ledger.raised + 1, ledger.counted + 1, ledger.handed ++ [⟨message, fault⟩], stamp⟩
      fault := by
  have settled : Ledger.Settled
      ⟨ledger.raised + 1, ledger.counted + 1, ledger.handed ++ [⟨message, fault⟩], stamp⟩ := by
    refine ⟨?_, ?_⟩
    · simp [sent.settled.raised]
    · simp [sent.settled.counted]
  cases fault with
  | none =>
      refine ⟨message, settled, ?_, ?_⟩
      · simp [sent.handed, Handover.accepted]
      · simpa using Nat.succ_le_of_lt left
  | some fault => exact ⟨settled, ⟨message, by simp [sent.handed]⟩, left⟩

/-- Writing a header keeps the length of a message. -/
theorem length_write (buffer : Buffer) (header : Header) :
    (buffer.write header).bytes.length = buffer.bytes.length :=
  Header.length_atFront buffer.fits

/-- A message that carries the header of the ledger is the one that it describes. -/
theorem describes_write
    {buffer : Buffer}
    (length : buffer.bytes.length = stint.length)
    {header : Header}
    (same : header = ledger.header stint.plan.timestamp) :
    stint.Describes ledger (buffer.write header).bytes where
  length := (length_write buffer header).trans length
  decoded := by
    rw [← same]
    exact Header.decode_atFront header buffer.fits

/-- A launch follows the protocol where a message of the plan is left. -/
theorem follows_launch
    (sent : stint.Sent messages ledger)
    (left : messages.length < stint.plan.count.toNat)
    {buffer : Buffer}
    (length : buffer.bytes.length = stint.length) :
    stint.protocol.Follows
      (fun later result =>
        stint.Launched messages later result.1 ∧ result.2.bytes.length = stint.length)
      ledger (Sending.launch stint.plan.timestamp buffer) := by
  have settled := sent.settled
  have free := sent.isOpen left
  have raised := congrArg (· + 1) settled.raised
  have counted := congrArg (· + 1) settled.counted
  -- The number is read before it is counted, so it is the count of messages handed over.
  refine .ask (mayAsk_of_settled settled rfl) ?_
  rintro number ⟨rfl⟩
  refine .ask ⟨⟨settled.raised, settled.counted⟩, fun _ => free, nofun⟩ fun _ _ => ?_
  refine .ask ⟨⟨raised, settled.counted⟩, fun _ => free, nofun⟩ fun level _ => ?_
  refine .ask ⟨⟨raised, counted⟩, fun _ => free, nofun⟩ fun _ _ => ?_
  cases timestamp : stint.plan.timestamp with
  | true =>
      refine .ask ⟨⟨raised, counted⟩, fun _ => free, nofun⟩ fun time _ => ?_
      refine .ask ⟨⟨raised, counted⟩, fun _ => free, ?_⟩ fun fault _ => ?_
      · rintro message ⟨rfl⟩
        rw [Buffer.stamp_write]
        refine describes_write length ?_
        rw [timestamp, Ledger.header, settled.raised]
        rfl
      · refine ⟨sent.launched left _ fault time, ?_⟩
        change ((buffer.write _).stamp time).bytes.length = stint.length
        rw [Buffer.stamp_write, length_write, length]
  | false =>
      refine .ask ⟨⟨raised, counted⟩, fun _ => free, ?_⟩ fun fault _ => ?_
      · rintro message ⟨rfl⟩
        refine describes_write length ?_
        rw [timestamp, Ledger.header, settled.raised]
        rfl
      · exact ⟨sent.launched left _ fault ledger.stamp, (length_write buffer _).trans length⟩

/-- The report of a refused message hands nothing over. -/
theorem follows_refused
    {fault : TransportFault}
    (refused : stint.Refused messages fault ledger)
    (linkName : String)
    (stage : Stage)
    (sent largest : UInt64) :
    stint.protocol.Follows
      (fun later failure =>
        stint.Refused messages fault later ∧
          failure = (Failure.ofCause (.transport fault)).within stage)
      ledger (Sending.refused linkName stage sent largest fault) := by
  refine .ask (mayAsk_of_settled refused.settled rfl) fun peak _ => ?_
  refine .ask (mayAsk_of_settled refused.settled rfl) fun _ _ => ?_
  exact ⟨refused, rfl⟩

end Stint
end LatencyMeter

import LatencyMeter.Proofs.Reflector
import Mathlib.Data.List.DropRight
import Mathlib.Data.List.Induction

/-!
# What a reflector does over a sequence of events

The first refused echo divides the events that a reflector handles. Every message that was
heard before it is echoed, and none after it. The owner is told of the refusal in its place
among the ends of streams, and leaves as the first thing that it is told says. Messages are
counted from the last beginning of a stream on, whether they are echoed or not.

How events are divided is settled by the link alone. A step lemma says that one more event
keeps a reflector in line with the division of its events, and the rest is induction.
-/

namespace LatencyMeter
namespace StreamEvent

/-- The message that an event brings, if it brings one. -/
def payload? : StreamEvent -> Option Payload
  | .data payload _ _ _ => some payload
  | _ => none

/-- Whether a stream begins. -/
def beginsStream : StreamEvent -> Bool
  | .beginOfStream _ => true
  | _ => false

/-- What there is to tell of the end of a stream. -/
def ending? : StreamEvent -> Option Notification
  | .endOfStream source => some (.endOfStream source)
  | _ => none

/-- The messages that some events bring, in order. -/
def messages (events : List StreamEvent) : List Payload := events.filterMap payload?

/-- The events since the last stream began, or all of them if none did. -/
def sinceBegin (events : List StreamEvent) : List StreamEvent :=
  events.rtakeWhile fun event => !event.beginsStream

/-- What the owner of a reflector is told of the ends of streams. -/
def endings (exitOnEnd : Bool) (events : List StreamEvent) : List Notification :=
  if exitOnEnd then events.filterMap ending? else []

@[simp] theorem messages_append (first second : List StreamEvent) :
    messages (first ++ second) = messages first ++ messages second :=
  List.filterMap_append

theorem sinceBegin_append_singleton (events : List StreamEvent) (event : StreamEvent) :
    sinceBegin (events ++ [event]) =
      if event.beginsStream then [] else sinceBegin events ++ [event] := by
  unfold sinceBegin
  rw [List.rtakeWhile_concat]
  cases event.beginsStream <;> rfl

@[simp] theorem endings_append (exitOnEnd : Bool) (first second : List StreamEvent) :
    endings exitOnEnd (first ++ second) = endings exitOnEnd first ++ endings exitOnEnd second := by
  cases exitOnEnd with
  | false => rfl
  | true => exact List.filterMap_append

@[simp] theorem endings_nil (exitOnEnd : Bool) : endings exitOnEnd [] = [] := by
  cases exitOnEnd <;> rfl

/-- Only the end of a stream is told as one. -/
theorem endings_cons_of_none
    {event : StreamEvent}
    (untold : event.ending? = none)
    (exitOnEnd : Bool)
    (rest : List StreamEvent) :
    endings exitOnEnd (event :: rest) = endings exitOnEnd rest := by
  cases exitOnEnd with
  | false => rfl
  | true => exact List.filterMap_cons_none untold

/-- What is told of ends is told of ends only. -/
theorem exists_of_mem_endings
    {exitOnEnd : Bool}
    {events : List StreamEvent}
    {notification : Notification}
    (told : notification ∈ endings exitOnEnd events) :
    exitOnEnd = true ∧
      exists source, notification = .endOfStream source ∧ .endOfStream source ∈ events := by
  cases exitOnEnd with
  | false => exact absurd told List.not_mem_nil
  | true =>
      obtain ⟨event, member, tells⟩ := List.mem_filterMap.mp told
      cases event with
      | endOfStream source => exact ⟨rfl, source, (Option.some.inj tells).symm, member⟩
      | beginOfStream | data | loss => contradiction

theorem endings_eq_nil_iff (exitOnEnd : Bool) (events : List StreamEvent) :
    endings exitOnEnd events = [] ↔
      ¬ (exitOnEnd = true ∧ exists source, .endOfStream source ∈ events) := by
  cases exitOnEnd with
  | false => simp [endings]
  | true =>
      rw [endings, if_pos rfl, List.filterMap_eq_nil_iff]
      constructor
      · rintro untold ⟨_, source, member⟩
        exact absurd (untold _ member) (Option.some_ne_none _)
      · intro none event member
        cases event with
        | endOfStream source => exact absurd ⟨rfl, source, member⟩ none
        | beginOfStream | data | loss => rfl

end StreamEvent

open StreamEvent

/-- Whether a notification tells of a refused echo. -/
def Notification.isSendFailed : Notification -> Bool
  | .sendFailed _ => true
  | .endOfStream _ => false

/-! ## The division of events -/

/-- How the first refused echo divides some events. -/
structure Echoing where
  /-- The events before the message whose echo was refused, or all of them. -/
  heard : List StreamEvent
  /-- Why the echo was refused, and the events behind it. -/
  refusal : Option (TransportFault × List StreamEvent)

namespace Echoing

/-- The link accepts all echoes of what was heard, and refuses the next one if there is a
refusal. -/
structure Divides
    (echoing : Echoing)
    (link : Nat -> Payload -> Option TransportFault)
    (events : List StreamEvent) : Prop where
  accepts : forall index message,
    (messages echoing.heard)[index]? = some message -> link index message = none
  whole :
    match echoing.refusal with
    | none => events = echoing.heard
    | some (fault, later) =>
        exists payload receivedAt source retransmit,
          events = echoing.heard ++ .data payload receivedAt source retransmit :: later ∧
            link (messages echoing.heard).length payload = some fault

namespace Divides

variable {link : Nat -> Payload -> Option TransportFault} {events heard : List StreamEvent}
variable {event : StreamEvent}

/-- One more event is heard unless its echo is refused. -/
theorem hear
    (divides : Divides ⟨heard, none⟩ link events)
    (accepted : forall payload,
      event.payload? = some payload -> link (messages heard).length payload = none) :
    Divides ⟨heard ++ [event], none⟩ link (events ++ [event]) where
  accepts := by
    intro index message present
    change (messages (heard ++ [event]))[index]? = some message at present
    rw [messages_append, List.getElem?_append] at present
    split at present
    · exact divides.accepts index message present
    · next beyond =>
      obtain ⟨payload, brings⟩ : exists payload, event.payload? = some payload := by
        cases brings : event.payload? with
        | none => simp [messages, brings] at present
        | some payload => exact ⟨payload, rfl⟩
      have single : messages [event] = [payload] := List.filterMap_cons_some brings
      rw [single, List.getElem?_singleton] at present
      split at present
      · next first =>
        obtain rfl : payload = message := Option.some.inj present
        obtain rfl : index = (messages heard).length := by omega
        exact accepted payload brings
      · contradiction
  whole := congrArg (· ++ [event]) divides.whole

/-- The echo of one more message is refused. -/
theorem refuse
    (divides : Divides ⟨heard, none⟩ link events)
    {payload : Payload}
    {fault : TransportFault}
    (refused : link (messages heard).length payload = some fault)
    (receivedAt : UInt64)
    (source : Option SocketAddress)
    (retransmit : Bool) :
    Divides ⟨heard, some (fault, [])⟩ link
      (events ++ [.data payload receivedAt source retransmit]) where
  accepts := divides.accepts
  whole := ⟨payload, receivedAt, source, retransmit, congrArg (· ++ [_]) divides.whole, refused⟩

/-- One more event comes behind the refused echo. -/
theorem miss
    {fault : TransportFault}
    {later : List StreamEvent}
    (divides : Divides ⟨heard, some (fault, later)⟩ link events)
    (event : StreamEvent) :
    Divides ⟨heard, some (fault, later ++ [event])⟩ link (events ++ [event]) where
  accepts := divides.accepts
  whole := by
    obtain ⟨payload, receivedAt, source, retransmit, rfl, refused⟩ := divides.whole
    exact ⟨payload, receivedAt, source, retransmit, by simp, refused⟩

end Divides

/-- How many echoes are attempted. -/
def attempts (echoing : Echoing) : Nat :=
  (messages echoing.heard).length + echoing.refusal.toList.length

/-- What the owner of the reflector is told. -/
def notifications (exitOnEnd : Bool) (echoing : Echoing) : List Notification :=
  endings exitOnEnd echoing.heard ++
    match echoing.refusal with
    | none => []
    | some (fault, later) => .sendFailed fault.message :: endings exitOnEnd later

/-- The owner of the reflector is told of the end of a stream before an echo was refused. -/
def EndTold (exitOnEnd : Bool) (echoing : Echoing) : Prop :=
  exitOnEnd = true ∧ exists source, .endOfStream source ∈ echoing.heard

end Echoing

/-! ## One event -/

namespace Reflection

variable {state : Reflection}

/-- An event is not echoed if it brings no message or if an echo was refused before. It
changes the counts and nothing else, and its end is told. -/
theorem deliver_unechoed
    (state : Reflection)
    (event : StreamEvent)
    (unechoed : event.payload? = none ∨ state.failed = true) :
    (exists counts, (state.deliver event).state = { state with counts := counts }) ∧
      (state.deliver event).notification.toList = endings state.exitOnEnd [event] := by
  cases event with
  | beginOfStream | loss =>
      rw [endings_cons_of_none rfl, endings_nil]
      exact ⟨⟨_, rfl⟩, rfl⟩
  | endOfStream source =>
      refine ⟨⟨state.counts, rfl⟩, ?_⟩
      cases ends : state.exitOnEnd <;> simp [deliver, endings, ending?, ends]
  | data payload receivedAt source retransmit =>
      have failed : state.failed = true := unechoed.resolve_left (Option.some_ne_none payload)
      rw [endings_cons_of_none rfl, endings_nil, deliver, onData, if_pos failed]
      exact ⟨⟨_, rfl⟩, rfl⟩

/-- A message is echoed if no echo was refused before and this one is accepted. -/
theorem deliver_accepted
    {payload : Payload}
    (failed : state.failed = false)
    (accepted : state.link state.attempts payload = none)
    (receivedAt : UInt64)
    (source : Option SocketAddress)
    (retransmit : Bool) :
    state.deliver (.data payload receivedAt source retransmit) =
      ⟨{ state with
          counts := state.counts.addMessage retransmit
          attempts := state.attempts + 1
          echoed := state.echoed.push payload }, none, none⟩ := by
  unfold deliver onData
  dsimp only
  rw [failed, if_neg Bool.false_ne_true, accepted]

/-- The first refused echo is told, and no echo follows it. -/
theorem deliver_refused
    {payload : Payload}
    {fault : TransportFault}
    (failed : state.failed = false)
    (refused : state.link state.attempts payload = some fault)
    (receivedAt : UInt64)
    (source : Option SocketAddress)
    (retransmit : Bool) :
    state.deliver (.data payload receivedAt source retransmit) =
      ⟨{ state with
          counts := state.counts.addMessage retransmit
          attempts := state.attempts + 1
          failed := true }, some (.sendFailed fault.message), some fault⟩ := by
  unfold deliver onData
  dsimp only
  rw [failed, if_neg Bool.false_ne_true, refused]

/-- A message is counted whether it is echoed or not. -/
theorem counts_onData (state : Reflection) (payload : Payload) (retransmit : Bool) :
    (state.onData payload retransmit).state.counts = state.counts.addMessage retransmit := by
  unfold onData
  extract_lets counted tried
  split
  · rfl
  · split <;> rfl

/-- The beginning of a stream starts the count over, and a message raises it. -/
theorem received_deliver (state : Reflection) (event : StreamEvent) :
    (state.deliver event).state.counts.received =
      (if event.beginsStream then 0 else state.counts.received) +
        UInt64.ofNat (messages [event]).length := by
  cases event with
  | data payload receivedAt source retransmit =>
      rw [deliver, counts_onData]
      rfl
  | beginOfStream source => rfl
  | loss | endOfStream => exact (UInt64.add_zero _).symm

end Reflection

/-! ## Any number of events -/

namespace Reflection

/-- The echoing after some events. -/
def after (state : Reflection) (events : List StreamEvent) : Reflection :=
  events.foldl (fun state event => (state.deliver event).state) state

/-- The notifications that are sent over some events, in order. -/
def emitted (state : Reflection) : List StreamEvent -> List Notification
  | [] => []
  | event :: rest =>
      (state.deliver event).notification.toList ++ (state.deliver event).state.emitted rest

theorem after_append_singleton
    (state : Reflection)
    (events : List StreamEvent)
    (event : StreamEvent) :
    state.after (events ++ [event]) = ((state.after events).deliver event).state :=
  List.foldl_concat _ _ _ _

theorem emitted_append_singleton
    (state : Reflection)
    (events : List StreamEvent)
    (event : StreamEvent) :
    state.emitted (events ++ [event]) =
      state.emitted events ++ ((state.after events).deliver event).notification.toList := by
  induction events generalizing state with
  | nil => simp [emitted, after]
  | cons first rest hypothesis =>
      rw [List.cons_append, emitted, emitted, hypothesis, List.append_assoc]
      rfl

/-- Messages are counted from the last beginning of a stream on. -/
theorem received_after (state : Reflection) (events : List StreamEvent) :
    (state.after events).counts.received =
      (if events.any beginsStream then 0 else state.counts.received) +
        UInt64.ofNat (messages (sinceBegin events)).length := by
  induction events using List.reverseRecOn with
  | nil => exact (UInt64.add_zero _).symm
  | append_singleton events event hypothesis =>
      rw [after_append_singleton, received_deliver, hypothesis, sinceBegin_append_singleton,
        List.any_append]
      cases begins : event.beginsStream with
      | true =>
          have silent : messages [event] = [] := by
            cases event with
            | beginOfStream source => rfl
            | data | loss | endOfStream => contradiction
          rw [silent]
          simp [begins, messages]
      | false => simp [begins, UInt64.ofNat_add, UInt64.add_assoc]

/-- The echoing has come to what a division of its events says. -/
structure InLine
    (link : Nat -> Payload -> Option TransportFault)
    (exitOnEnd : Bool)
    (events : List StreamEvent)
    (echoing : Echoing)
    (state : Reflection)
    (told : List Notification) : Prop where
  divides : echoing.Divides link events
  sameLink : state.link = link
  sameExit : state.exitOnEnd = exitOnEnd
  failed : state.failed = echoing.refusal.isSome
  echoed : state.echoed.toList = messages echoing.heard
  attempts : state.attempts = echoing.attempts
  told : told = echoing.notifications exitOnEnd

namespace InLine

variable {link : Nat -> Payload -> Option TransportFault} {exitOnEnd : Bool}
variable {events heard : List StreamEvent} {state : Reflection} {told : List Notification}

theorem start
    (link : Nat -> Payload -> Option TransportFault)
    (exitOnEnd : Bool)
    (counts : ReceiveCounts) :
    InLine link exitOnEnd [] ⟨[], none⟩ ⟨link, exitOnEnd, 0, #[], counts, false⟩ [] where
  divides := ⟨fun _ _ present => absurd present (by simp [messages]), rfl⟩
  sameLink := rfl
  sameExit := rfl
  failed := rfl
  echoed := rfl
  attempts := rfl
  told := by cases exitOnEnd <;> rfl

/-- Behind the refused echo nothing is echoed. -/
theorem deliver_missed
    {fault : TransportFault}
    {later : List StreamEvent}
    (inLine : InLine link exitOnEnd events ⟨heard, some (fault, later)⟩ state told)
    (event : StreamEvent) :
    InLine link exitOnEnd (events ++ [event]) ⟨heard, some (fault, later ++ [event])⟩
      (state.deliver event).state (told ++ (state.deliver event).notification.toList) := by
  obtain ⟨divides, rfl, rfl, failed, echoed, attempts, rfl⟩ := inLine
  obtain ⟨⟨counts, same⟩, tells⟩ := state.deliver_unechoed event (.inr failed)
  rw [same, tells]
  exact
    { divides := divides.miss event
      sameLink := rfl
      sameExit := rfl
      failed := failed
      echoed := echoed
      attempts := attempts
      told := by simp [Echoing.notifications] }

/-- An event without a message is heard. -/
theorem deliver_silent
    {event : StreamEvent}
    (inLine : InLine link exitOnEnd events ⟨heard, none⟩ state told)
    (silent : event.payload? = none) :
    InLine link exitOnEnd (events ++ [event]) ⟨heard ++ [event], none⟩
      (state.deliver event).state (told ++ (state.deliver event).notification.toList) := by
  obtain ⟨divides, rfl, rfl, failed, echoed, attempts, rfl⟩ := inLine
  obtain ⟨⟨counts, same⟩, tells⟩ := state.deliver_unechoed event (.inl silent)
  have none : messages [event] = [] := List.filterMap_cons_none silent
  rw [same, tells]
  exact
    { divides := divides.hear fun payload brings => by simp [silent] at brings
      sameLink := rfl
      sameExit := rfl
      failed := failed
      echoed := by simpa [none] using echoed
      attempts := by simpa [none, Echoing.attempts] using attempts
      told := by simp [Echoing.notifications] }

/-- A message is heard if its echo is accepted; else its echo is the refused one. -/
theorem deliver_data
    (inLine : InLine link exitOnEnd events ⟨heard, none⟩ state told)
    (payload : Payload)
    (receivedAt : UInt64)
    (source : Option SocketAddress)
    (retransmit : Bool) :
    let event := .data payload receivedAt source retransmit
    exists next : Echoing,
      InLine link exitOnEnd (events ++ [event]) next (state.deliver event).state
        (told ++ (state.deliver event).notification.toList) := by
  intro event
  obtain ⟨divides, rfl, rfl, failed, echoed, attempts, rfl⟩ := inLine
  have next : state.attempts = (messages heard).length := attempts
  have single : messages [event] = [payload] := rfl
  have untold : endings state.exitOnEnd [event] = [] :=
    (endings_cons_of_none rfl _ _).trans (endings_nil _)
  cases verdict : state.link state.attempts payload with
  | none =>
      rw [deliver_accepted failed verdict]
      refine ⟨⟨heard ++ [event], none⟩, ?_⟩
      exact
        { divides := divides.hear fun message brings => by
            obtain rfl : payload = message := Option.some.inj brings
            exact next ▸ verdict
          sameLink := rfl
          sameExit := rfl
          failed := failed
          echoed := by simpa [single] using echoed
          attempts := by simpa [Echoing.attempts, single] using next
          told := by simp [Echoing.notifications, untold] }
  | some fault =>
      rw [deliver_refused failed verdict]
      refine ⟨⟨heard, some (fault, [])⟩, ?_⟩
      exact
        { divides := divides.refuse (next ▸ verdict) receivedAt source retransmit
          sameLink := rfl
          sameExit := rfl
          failed := rfl
          echoed := echoed
          attempts := congrArg (· + 1) next
          told := by simp [Echoing.notifications, endings] }

/-- One more event keeps the echoing in line. -/
theorem deliver
    {echoing : Echoing}
    (inLine : InLine link exitOnEnd events echoing state told)
    (event : StreamEvent) :
    exists next : Echoing,
      InLine link exitOnEnd (events ++ [event]) next (state.deliver event).state
        (told ++ (state.deliver event).notification.toList) := by
  obtain ⟨heard, refusal⟩ := echoing
  cases refusal with
  | some refusal => exact ⟨_, inLine.deliver_missed event⟩
  | none =>
      cases event with
      | data payload receivedAt source retransmit =>
          exact inLine.deliver_data payload receivedAt source retransmit
      | beginOfStream | loss | endOfStream => exact ⟨_, inLine.deliver_silent rfl⟩

/-- Over any events the echoing stays in line. -/
theorem after
    (link : Nat -> Payload -> Option TransportFault)
    (exitOnEnd : Bool)
    (counts : ReceiveCounts)
    (events : List StreamEvent) :
    let start : Reflection := ⟨link, exitOnEnd, 0, #[], counts, false⟩
    exists echoing : Echoing,
      InLine link exitOnEnd events echoing (start.after events) (start.emitted events) := by
  intro start
  induction events using List.reverseRecOn with
  | nil => exact ⟨_, .start link exitOnEnd counts⟩
  | append_singleton events event hypothesis =>
      obtain ⟨echoing, inLine⟩ := hypothesis
      rw [after_append_singleton, emitted_append_singleton]
      exact inLine.deliver event

end InLine
end Reflection

/-! ## What the owner is told -/

namespace Echoing

variable {echoing : Echoing} {link : Nat -> Payload -> Option TransportFault}
variable {events : List StreamEvent}

/-- One notification is about a refused echo if there is one, and none otherwise. -/
theorem countP_notifications (exitOnEnd : Bool) (echoing : Echoing) :
    (echoing.notifications exitOnEnd).countP Notification.isSendFailed =
      echoing.refusal.toList.length := by
  have none (events : List StreamEvent) :
      (endings exitOnEnd events).countP Notification.isSendFailed = 0 := by
    rw [List.countP_eq_zero]
    intro notification told
    obtain ⟨_, source, rfl, _⟩ := exists_of_mem_endings told
    exact Bool.false_ne_true
  unfold notifications
  cases echoing.refusal with
  | none => simp [none]
  | some refusal =>
      rw [List.countP_append, none, List.countP_cons_of_pos rfl, none]
      rfl

/-- All other notifications are about the ends of streams. -/
theorem filter_notifications (divides : echoing.Divides link events) (exitOnEnd : Bool) :
    (echoing.notifications exitOnEnd).filter (fun notification => !notification.isSendFailed) =
      endings exitOnEnd events := by
  have all (events : List StreamEvent) :
      (endings exitOnEnd events).filter (fun notification => !notification.isSendFailed) =
        endings exitOnEnd events := by
    rw [List.filter_eq_self]
    intro notification told
    obtain ⟨_, source, rfl, _⟩ := exists_of_mem_endings told
    rfl
  obtain ⟨heard, refusal⟩ := echoing
  unfold notifications
  cases refusal with
  | none =>
      obtain rfl : events = heard := divides.whole
      simp [all]
  | some refusal =>
      obtain ⟨fault, later⟩ := refusal
      obtain ⟨payload, receivedAt, source, retransmit, rfl, _⟩ := divides.whole
      rw [endings_append, endings_cons_of_none rfl, List.filter_append,
        List.filter_cons_of_neg Bool.false_ne_true, all, all]

/-- The owner leaves as the first thing that it is told says, which is the end of a stream if
one was told before an echo was refused. -/
theorem exit_notifications (exitOnEnd : Bool) (echoing : Echoing) :
    let outcome := Notification.exit (echoing.notifications exitOnEnd).head?
    (echoing.EndTold exitOnEnd ∧ exists entry, outcome = .ok entry) ∨
      ¬ echoing.EndTold exitOnEnd ∧
        outcome = .error (Failure.ofCause (match echoing.refusal with
          | none => .reflectorStopped
          | some (fault, _) => .echoFailed fault.message)) := by
  intro outcome
  cases told : endings exitOnEnd echoing.heard with
  | nil =>
      refine .inr ⟨(endings_eq_nil_iff exitOnEnd echoing.heard).mp told, ?_⟩
      unfold outcome notifications
      rw [told]
      cases echoing.refusal <;> rfl
  | cons first rest =>
      obtain ⟨exits, source, rfl, ended⟩ :=
        exists_of_mem_endings (told ▸ List.mem_cons_self : first ∈ endings _ _)
      refine .inl ⟨⟨exits, source, ended⟩, ?_⟩
      unfold outcome notifications
      rw [told]
      exact ⟨_, rfl⟩

end Echoing

/-! ## Reflectors -/

/-- Some notifications wait for the owner if it listens, and are gone otherwise. -/
def Mailbox.hold (told : List Notification) (mailbox : Mailbox) : Mailbox :=
  if mailbox.attended then { mailbox with waiting := mailbox.waiting ++ told } else mailbox

@[simp] theorem Mailbox.hold_nil (mailbox : Mailbox) : mailbox.hold [] = mailbox := by
  simp [hold]

theorem Mailbox.hold_append (first second : List Notification) (mailbox : Mailbox) :
    mailbox.hold (first ++ second) = (mailbox.hold first).hold second := by
  unfold hold
  cases listens : mailbox.attended <;> simp [listens]

namespace Reflector

theorem mailbox_deliver (reflector : Reflector) (event : StreamEvent) :
    (reflector.deliver event).mailbox =
      reflector.mailbox.hold (reflector.reflection.deliver event).notification.toList := by
  unfold deliver
  extract_lets step attended reporter handled
  cases step.notification with
  | none => exact reflector.mailbox.hold_nil.symm
  | some notification =>
      unfold notify Mailbox.hold
      dsimp only [handled]
      split <;> rfl

/-- Over any events a reflector echoes, and tells its owner of it. -/
theorem foldl_deliver (reflector : Reflector) (events : List StreamEvent) :
    (events.foldl deliver reflector).reflection = reflector.reflection.after events ∧
      (events.foldl deliver reflector).mailbox =
        reflector.mailbox.hold (reflector.reflection.emitted events) := by
  induction events using List.reverseRecOn with
  | nil => exact ⟨rfl, reflector.mailbox.hold_nil.symm⟩
  | append_singleton events event hypothesis =>
      obtain ⟨reflection, mailbox⟩ := hypothesis
      rw [List.foldl_concat, reflection_deliver, mailbox_deliver, reflection, mailbox,
        Reflection.after_append_singleton, Reflection.emitted_append_singleton,
        Mailbox.hold_append]
      exact ⟨rfl, rfl⟩

/-- Whatever the link refuses and whatever events come, the messages before the first refused
echo are echoed unchanged and in order, and no echo is attempted after it. The owner is told
of one refused echo if there is one, and of each end of a stream if it wants to be. Messages
are counted from the last beginning of a stream on. The owner leaves with success if it is
told of an end before an echo is refused, with the refusal if it is not and an echo is refused,
and with a failure if it is told nothing. -/
theorem reflects_events
    (link : Nat -> Payload -> Option TransportFault)
    (exitOnEnd attended : Bool)
    (counts : ReceiveCounts)
    (reporter : Reporter)
    (events : List StreamEvent) :
    let start : Reflector :=
      ⟨⟨link, exitOnEnd, 0, #[], counts, false⟩, ⟨attended, []⟩, reporter⟩
    let last := events.foldl deliver start
    let told := start.reflection.emitted events
    let outcome := Notification.exit told.head?
    exists echoing : Echoing,
      echoing.Divides link events ∧
        last.reflection.echoed.toList = messages echoing.heard ∧
        last.reflection.attempts =
          (messages echoing.heard).length + echoing.refusal.toList.length ∧
        told = echoing.notifications exitOnEnd ∧
        told.countP Notification.isSendFailed = echoing.refusal.toList.length ∧
        told.filter (fun notification => !notification.isSendFailed) =
          endings exitOnEnd events ∧
        last.mailbox.waiting = (if attended then told else []) ∧
        last.reflection.counts.received =
          (if events.any beginsStream then 0 else counts.received) +
            UInt64.ofNat (messages (sinceBegin events)).length ∧
        ((exists entry, outcome = .ok entry) ↔ echoing.EndTold exitOnEnd) ∧
        (forall reason, outcome = .error (Failure.ofCause (.echoFailed reason)) ↔
          ¬ echoing.EndTold exitOnEnd ∧
            exists fault later, echoing.refusal = some (fault, later) ∧ fault.message = reason) ∧
        (outcome = .error (Failure.ofCause .reflectorStopped) ↔
          ¬ echoing.EndTold exitOnEnd ∧ echoing.refusal = none) := by
  intro start last told outcome
  obtain ⟨echoing, inLine⟩ := Reflection.InLine.after link exitOnEnd counts events
  obtain ⟨reflection, mailbox⟩ := start.foldl_deliver events
  have tells : told = echoing.notifications exitOnEnd := inLine.told
  refine ⟨echoing, inLine.divides, ?_, ?_, tells, ?_, ?_, ?_, ?_, ?_⟩
  · exact (congrArg (·.echoed.toList) reflection).trans inLine.echoed
  · exact (congrArg (·.attempts) reflection).trans inLine.attempts
  · rw [tells, Echoing.countP_notifications]
  · rw [tells, Echoing.filter_notifications inLine.divides]
  · refine (congrArg (·.waiting) mailbox).trans ?_
    cases attended <;> rfl
  · exact (congrArg (·.counts.received) reflection).trans (Reflection.received_after _ _)
  · have exits := echoing.exit_notifications exitOnEnd
    rw [← tells] at exits
    change (_ ∧ exists entry, outcome = _) ∨ _ ∧ outcome = _ at exits
    rcases exits with ⟨ended, entry, leaves⟩ | ⟨notEnded, leaves⟩
    · simp [leaves, ended]
    · cases refusal : echoing.refusal with
      | none => simp [leaves, notEnded, refusal, Failure.ofCause]
      | some refused =>
          obtain ⟨fault, later⟩ := refused
          simp [leaves, notEnded, refusal, Failure.ofCause]

/-- The refused echo is told in its place among the ends, and a stream that begins afterwards
does not bring the echoes back. -/
example :
    let link := fun attempt (_ : Payload) =>
      if attempt = 1 then some TransportFault.disconnected else none
    let events : List StreamEvent :=
      [.beginOfStream none, .data [1] 0 none false, .endOfStream none, .data [2] 0 none false,
        .beginOfStream none, .data [3] 0 none false, .endOfStream none]
    let start : Reflection := ⟨link, true, 0, #[], ReceiveCounts.zero, false⟩
    start.emitted events =
        [.endOfStream none, .sendFailed TransportFault.disconnected.message,
          .endOfStream none] ∧
      (start.after events).echoed = #[[1]] ∧ (start.after events).counts.received = 1 := by
  decide

end Reflector
end LatencyMeter

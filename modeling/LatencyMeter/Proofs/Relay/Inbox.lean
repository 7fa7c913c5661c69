import LatencyMeter.Proofs.Relay.Outbox
import LatencyMeter.Proofs.RoundTrip.Sampling

/-!
# A receive thread that hears only messages that were sent

An inbox is a receive thread together with what an observer has seen of it: which
messages it accepted and when they arrived, and which intervals it handed to its
histogram. The observer knows of every arriving message which sent one it is a copy of.

As long as only copies of sent messages arrive, the accepted numbers are numbers of sent
messages. They are distinct, so there are no more of them than messages were sent, and
the count of unconfirmed messages can only be exhausted by outgrowing its word.
-/

namespace LatencyMeter

/-- The delivery of a copy of a sent message. -/
structure Delivery where
  /-- The position of the message among the sent ones. -/
  origin : Nat
  receivedAt : UInt64
  deriving DecidableEq, Repr

/-- The acceptance of a number. -/
structure Receipt where
  number : UInt64
  delivery : Delivery
  deriving DecidableEq, Repr

/-- An interval that was handed to the histogram on behalf of a sent message. -/
structure Sample where
  origin : Nat
  interval : Interval
  deriving DecidableEq, Repr

namespace Sample

/-- The acceptance that the sample should come from. -/
def receipt (sample : Sample) : Receipt :=
  ⟨sample.interval.number, ⟨sample.origin, sample.interval.receivedAt⟩⟩

/-- The sample belongs to a message that its thread stamped, and runs from its stamp. -/
def BelongsTo (sample : Sample) (message : Message) : Prop :=
  message.timestamp = true ∧
    message.stamp = some sample.interval.sentAt ∧
    message.number = sample.interval.number

/-- The histogram after a sample was handed to it. -/
def record (sample : Sample) (histogram : Histogram) : Histogram :=
  sample.interval.record histogram

end Sample

/-- A receive thread and what an observer has seen of it. -/
structure Inbox where
  receiver : ReceiveThread
  /-- The delivery of the message that was heard last. -/
  delivery : Delivery
  /-- The acceptances, the latest first. -/
  receipts : List Receipt
  /-- The samples since the histogram was last reset, the latest first. -/
  recent : List Sample
  /-- The samples before that, the latest first. -/
  earlier : List Sample
  /-- The histogram before the recent samples. -/
  blank : Histogram

namespace Inbox

/-- Nothing has arrived. -/
def start (histogram : Histogram) : Inbox :=
  ⟨ReceiveThread.start histogram, ⟨0, 0⟩, [], [], [], histogram⟩

/-- The accepted numbers, the latest first. -/
def accepted (inbox : Inbox) : EchoHistory := inbox.receipts.map Receipt.number

/-- All samples, the latest first. -/
def samples (inbox : Inbox) : List Sample := inbox.recent ++ inbox.earlier

/-- Hear an event that carries no message. -/
def hear (inbox : Inbox) (event : StreamEvent) : Inbox :=
  { inbox with receiver := inbox.receiver.hear event }

/-- Hear a copy of a sent message, unless one is being handled. -/
def receive
    (inbox : Inbox)
    (delivery : Delivery)
    (payload : Payload)
    (source : Option SocketAddress)
    (retransmit : Bool) :
    Inbox :=
  match inbox.receiver.point with
  | .idle =>
      { inbox with
        receiver :=
          inbox.receiver.hear (.data payload delivery.receivedAt source retransmit)
        delivery := delivery }
  | _ => inbox

/-- Take a step in the handling of a message. -/
def handle (inbox : Inbox) : Inbox :=
  { inbox with
    receiver := inbox.receiver.step
    receipts :=
      inbox.receiver.accepting?.toList.map (fun number => ⟨number, inbox.delivery⟩) ++
        inbox.receipts
    recent :=
      inbox.receiver.sampling?.toList.map (fun interval => ⟨inbox.delivery.origin, interval⟩) ++
        inbox.recent }

/-- Reset the histogram. -/
def reset (inbox : Inbox) : Inbox :=
  { inbox with
    receiver :=
      { inbox.receiver with roundTrip := inbox.receiver.roundTrip.resetSamples }
    recent := []
    earlier := inbox.samples
    blank := inbox.receiver.roundTrip.histogram.reset }

/-- The inbox after another thread changed the shared counters. -/
def withFlight (inbox : Inbox) (flight : Flight) : Inbox :=
  { inbox with receiver := inbox.receiver.withFlight flight }

/-- The acceptance that has not been confirmed yet, if there is one. -/
def unsettled (inbox : Inbox) : List Receipt :=
  inbox.receiver.unsettled.map fun number => ⟨number, inbox.delivery⟩

/-- What arrived was sent: the thread agrees with the observer, handles a copy of the
message that arrived last, has accepted only numbers of messages that arrived, and has
sampled only accepted and stamped ones. -/
structure Sound (inbox : Inbox) (sent : List Message) (raised : Nat) : Prop where
  agrees : inbox.receiver.Agrees raised inbox.accepted
  arrived : forall echo, inbox.receiver.point.echo? = some echo ->
    echo.receivedAt = inbox.delivery.receivedAt ∧
      exists message, sent[inbox.delivery.origin]? = some message ∧
        message.Genuine ∧ echo.header = message.header
  received : forall receipt, receipt ∈ inbox.receipts ->
    exists message, sent[receipt.delivery.origin]? = some message ∧
      message.number = receipt.number
  sampled : forall sample, sample ∈ inbox.samples ->
    exists message, sent[sample.origin]? = some message ∧ sample.BelongsTo message
  settled : (inbox.unsettled ++ inbox.samples.map Sample.receipt).Sublist inbox.receipts
  recorded :
    inbox.receiver.roundTrip.histogram = inbox.recent.foldr Sample.record inbox.blank
  exhausted : forall cause, inbox.receiver.point = .crashed cause ->
    inbox.accepted.length + 2 ^ 63 ≤ raised

theorem sound_start (histogram : Histogram) : (start histogram).Sound [] 0 where
  agrees := ReceiveThread.agrees_start histogram
  arrived := by
    intro echo handled
    exact absurd handled (by simp [start, ReceiveThread.start, ReceiveThread.Point.echo?])
  received := by
    intro receipt member
    exact absurd member List.not_mem_nil
  sampled := by
    intro sample member
    exact absurd member List.not_mem_nil
  settled := List.Sublist.refl []
  recorded := rfl
  exhausted := by
    intro cause crashed
    exact absurd crashed (by simp [start, ReceiveThread.start])

namespace Sound

variable {inbox : Inbox} {sent : List Message} {raised : Nat}

/-- Distinct numbers of sent messages are no more than the messages. -/
theorem length_accepted_le (sound : inbox.Sound sent raised) :
    inbox.accepted.length ≤ sent.length := by
  have contained : inbox.accepted ⊆ sent.map Message.number := by
    intro number member
    obtain ⟨receipt, present, rfl⟩ := List.mem_map.mp member
    obtain ⟨message, position, same⟩ := sound.received receipt present
    exact List.mem_map.mpr ⟨message, List.mem_of_getElem? position, same⟩
  have bound := (List.subperm_of_subset sound.agrees.nodup contained).length_le
  rwa [List.length_map] at bound

/-- Each sample has a number of its own. -/
theorem nodup_numbers (sound : inbox.Sound sent raised) :
    (inbox.samples.map fun sample => sample.interval.number).Nodup := by
  have receipts : (inbox.samples.map Sample.receipt).Sublist inbox.receipts :=
    (List.sublist_append_right _ _).trans sound.settled
  have numbers := receipts.map Receipt.number
  rw [List.map_map] at numbers
  exact numbers.nodup sound.agrees.nodup

/-- A message has at most one sample, because messages of one number have at most one. -/
theorem nodup_origins (sound : inbox.Sound sent raised) :
    (inbox.samples.map Sample.origin).Nodup := by
  let numberAt (origin : Nat) : UInt64 := (sent[origin]?.map Message.number).getD 0
  have numbers : inbox.samples.map (fun sample => sample.interval.number) =
      (inbox.samples.map Sample.origin).map numberAt := by
    rw [List.map_map]
    apply List.map_congr_left
    intro sample member
    obtain ⟨message, origin, _, _, number⟩ := sound.sampled sample member
    change sample.interval.number = (sent[sample.origin]?.map Message.number).getD 0
    rw [origin, ← number]
    rfl
  have distinct := sound.nodup_numbers
  rw [numbers] at distinct
  exact distinct.of_map numberAt

/-- There are no more samples than stamped messages. -/
theorem length_samples_le (sound : inbox.Sound sent raised) :
    inbox.samples.length ≤ sent.countP Message.timestamp := by
  have contained : (inbox.samples.map fun sample => sample.interval.number) ⊆
      (sent.filter Message.timestamp).map Message.number := by
    intro number member
    obtain ⟨sample, present, rfl⟩ := List.mem_map.mp member
    obtain ⟨message, origin, timestamp, _, same⟩ := sound.sampled sample present
    have stamped := List.mem_filter.mpr ⟨List.mem_of_getElem? origin, timestamp⟩
    exact List.mem_map.mpr ⟨message, stamped, same⟩
  have bound := (List.subperm_of_subset sound.nodup_numbers contained).length_le
  rwa [List.length_map, List.length_map, ← List.countP_eq_length_filter] at bound

/-- Sending more messages does not disturb what is known of the earlier ones. -/
theorem mono
    (sound : inbox.Sound sent raised)
    {more : List Message}
    (isPrefix : sent <+: more) :
    inbox.Sound more raised := by
  refine { sound with arrived := ?_, received := ?_, sampled := ?_ }
  · intro echo handled
    obtain ⟨time, message, present, known⟩ := sound.arrived echo handled
    exact ⟨time, message, Outbox.getElem?_of_isPrefix isPrefix present, known⟩
  · intro receipt member
    obtain ⟨message, present, known⟩ := sound.received receipt member
    exact ⟨message, Outbox.getElem?_of_isPrefix isPrefix present, known⟩
  · intro sample member
    obtain ⟨message, present, known⟩ := sound.sampled sample member
    exact ⟨message, Outbox.getElem?_of_isPrefix isPrefix present, known⟩

theorem withFlight
    (sound : inbox.Sound sent raised)
    {flight : Flight}
    {more : Nat}
    (outstanding : flight.outstanding = inbox.receiver.flight.outstanding + Int64.ofInt more) :
    (inbox.withFlight flight).Sound sent (raised + more) :=
  { sound with
    agrees := sound.agrees.withFlight outstanding
    exhausted := fun cause crashed =>
      Nat.le_trans (sound.exhausted cause crashed) (Nat.le_add_right raised more) }

theorem hear
    (sound : inbox.Sound sent raised)
    {event : StreamEvent}
    (empty : forall payload receivedAt source retransmit,
      event ≠ .data payload receivedAt source retransmit) :
    (inbox.hear event).Sound sent raised where
  agrees := sound.agrees.hear event
  arrived := by
    intro echo handled
    rcases ReceiveThread.echo?_hear handled with before | ⟨payload, source, carries, _⟩
    · exact sound.arrived echo before
    · exact absurd carries (empty payload _ source _)
  received := sound.received
  sampled := sound.sampled
  settled := by
    rw [unsettled, Inbox.hear, ReceiveThread.unsettled_hear]
    exact sound.settled
  recorded := (inbox.receiver.histogram_hear event).trans sound.recorded
  exhausted := fun cause crashed =>
    sound.exhausted cause (ReceiveThread.point_hear_of_crashed crashed)

/-- A copy of a genuine message has the header of that message. -/
theorem receive
    (sound : inbox.Sound sent raised)
    {delivery : Delivery}
    {message : Message}
    (origin : sent[delivery.origin]? = some message)
    (genuine : message.Genuine)
    (source : Option SocketAddress)
    (retransmit : Bool) :
    (inbox.receive delivery message.payload source retransmit).Sound sent raised := by
  unfold Inbox.receive
  split
  · next idle =>
    let event : StreamEvent := .data message.payload delivery.receivedAt source retransmit
    have nothing : inbox.receiver.unsettled = [] := by
      rw [ReceiveThread.unsettled, idle]
    have settled := sound.settled
    rw [unsettled, nothing] at settled
    refine
      { agrees := sound.agrees.hear event
        arrived := ?_
        received := sound.received
        sampled := sound.sampled
        settled := ?_
        recorded := (inbox.receiver.histogram_hear event).trans sound.recorded
        exhausted := fun cause crashed =>
          sound.exhausted cause (ReceiveThread.point_hear_of_crashed crashed) }
    · intro echo handled
      rcases ReceiveThread.echo?_hear handled with before | ⟨payload, other, carries, decoded⟩
      · rw [idle] at before
        exact absurd before (by simp [ReceiveThread.Point.echo?])
      · obtain ⟨rfl, time, _, _⟩ := StreamEvent.data.inj carries
        have same := genuine.decoded.symm.trans decoded
        exact ⟨time.symm, message, origin, genuine, (Except.ok.inj same).symm⟩
    · rw [unsettled]
      dsimp only
      rw [ReceiveThread.unsettled_hear, nothing]
      exact settled
  · exact sound

/-- What a step samples was accepted before, or is accepted now. -/
theorem settled_handle (sound : inbox.Sound sent raised) :
    (inbox.handle.unsettled ++ inbox.handle.samples.map Sample.receipt).Sublist
      inbox.handle.receipts := by
  let receiptOf (number : UInt64) : Receipt := ⟨number, inbox.delivery⟩
  have taken := inbox.receiver.unsettled_step_sublist.map receiptOf
  rw [List.map_append, List.map_append] at taken
  have sampled :
      (inbox.receiver.sampling?.toList.map Interval.number).map receiptOf =
        (inbox.receiver.sampling?.toList.map
          (Sample.mk inbox.delivery.origin)).map Sample.receipt := by
    cases samples : inbox.receiver.sampling? with
    | none => rfl
    | some interval =>
        obtain ⟨echo, handled, _, rfl⟩ := ReceiveThread.echo?_of_sampling samples
        obtain ⟨time, _⟩ := sound.arrived echo handled
        have same : receiptOf echo.interval.number =
            (Sample.mk inbox.delivery.origin echo.interval).receipt := by
          unfold Sample.receipt Echo.interval
          rw [time]
        exact congrArg (fun receipt => [receipt]) same
  rw [sampled] at taken
  have before :
      (inbox.receiver.accepting?.toList.map receiptOf ++
          inbox.receiver.unsettled.map receiptOf ++
          inbox.samples.map Sample.receipt).Sublist
        (inbox.receiver.accepting?.toList.map receiptOf ++ inbox.receipts) := by
    rw [List.append_assoc]
    exact (List.Sublist.refl _).append sound.settled
  have after := (taken.append (List.Sublist.refl (inbox.samples.map Sample.receipt))).trans before
  simpa only [Inbox.handle, unsettled, samples, List.map_append, List.append_assoc] using after

/-- Short of the limit of the count a confirmation is no fault, because the accepted
numbers are no more than the raises. -/
theorem exhausted_handle
    (sound : inbox.Sound sent raised)
    (counted : sent.length ≤ raised)
    {cause : Cause}
    (crashes : inbox.receiver.step.point = .crashed cause) :
    inbox.handle.accepted.length + 2 ^ 63 ≤ raised := by
  have known : inbox.receiver.accepting? = none := by
    rcases ReceiveThread.of_step_crashed crashes with crashed | ⟨echo, confirming, _⟩
    · rw [ReceiveThread.accepting?, crashed]
    · rw [ReceiveThread.accepting?, confirming]
  have unchanged : inbox.handle.accepted = inbox.accepted := by
    unfold accepted Inbox.handle
    rw [known]
    rfl
  rw [unchanged]
  rcases ReceiveThread.of_step_crashed crashes with crashed | ⟨echo, confirming, negative⟩
  · exact sound.exhausted cause crashed
  · have fewer := Nat.le_trans sound.length_accepted_le counted
    by_contra within
    rw [sound.agrees.lower_outstanding confirming, Int64.lt_iff_toInt_lt,
      Int64.toInt_ofInt_of_le (by omega) (by omega)] at negative
    change (raised : Int) - (inbox.accepted.length : Int) < 0 at negative
    omega

theorem handle (sound : inbox.Sound sent raised) (counted : sent.length ≤ raised) :
    inbox.handle.Sound sent raised where
  agrees := by
    have accepted : inbox.handle.accepted =
        inbox.receiver.accepting?.toList ++ inbox.accepted := by
      unfold accepted Inbox.handle
      rw [List.map_append, List.map_map]
      congr 1
      exact List.map_id _
    rw [accepted]
    exact sound.agrees.step
  arrived := fun echo handled => sound.arrived echo (ReceiveThread.echo?_step handled)
  received := by
    intro receipt member
    rcases List.mem_append.mp member with latest | before
    · obtain ⟨number, accepts, rfl⟩ := List.mem_map.mp latest
      obtain ⟨echo, handled, rfl⟩ :=
        ReceiveThread.echo?_of_accepting (Option.mem_toList.mp accepts)
      obtain ⟨_, message, origin, _, header⟩ := sound.arrived echo handled
      refine ⟨message, origin, ?_⟩
      rw [header, Message.header]
    · exact sound.received receipt before
  sampled := by
    intro sample member
    rw [samples, Inbox.handle, List.append_assoc] at member
    rcases List.mem_append.mp member with latest | before
    · obtain ⟨interval, samples, rfl⟩ := List.mem_map.mp latest
      obtain ⟨echo, handled, timestamped, rfl⟩ :=
        ReceiveThread.echo?_of_sampling (Option.mem_toList.mp samples)
      obtain ⟨_, message, origin, genuine, header⟩ := sound.arrived echo handled
      rw [header, Message.isTimestamped_header] at timestamped
      refine ⟨message, origin, timestamped, ?_, ?_⟩
      · rw [Echo.interval, header]
        exact genuine.stamp_eq timestamped
      · rw [Echo.interval, header, Message.header]
    · exact sound.sampled sample before
  settled := sound.settled_handle
  recorded := by
    rw [Inbox.handle, ReceiveThread.histogram_step, sound.recorded, List.foldr_append,
      List.foldr_map]
    rfl
  exhausted := fun _ crashes => sound.exhausted_handle counted crashes

theorem reset (sound : inbox.Sound sent raised) : inbox.reset.Sound sent raised where
  agrees :=
    ⟨sound.agrees.outstanding, sound.agrees.represents, sound.agrees.nodup,
      sound.agrees.confirming_mem⟩
  arrived := sound.arrived
  received := sound.received
  sampled := sound.sampled
  settled := sound.settled
  recorded := rfl
  exhausted := sound.exhausted

end Sound
end Inbox
end LatencyMeter

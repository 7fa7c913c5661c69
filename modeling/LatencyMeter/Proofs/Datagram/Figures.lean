import LatencyMeter.Proofs.Datagram.Framing
import LatencyMeter.Proofs.RoundTrip.Delivery

/-!
# The figures of a measurement on a datagram path

A measurement keeps three stores: its histogram, its flight counters and its counts. The
beginning of a stream starts the counts over and leaves the other two alone, and on a datagram
path anyone can make a stream begin, by an empty datagram that ends the one before.

So the counts agree with the other stores only as far as they go back. The samples since the
last stream began and the rejected ones are no more than the received messages, and the
unconfirmed messages are those sent less those received by all streams. As long as no message
comes behind an end, there is one stream, and the counts agree with the stores as a whole.

Nothing is assumed about the datagrams, and no count of messages is too large: the accepted
numbers are distinct words, so the counts of received messages never wrap.
-/

namespace LatencyMeter

/-! ## What one message does to the figures -/

namespace RoundTrip

variable {state : RoundTrip} {header : Header} {payload : Payload} {receivedAt : UInt64}
  {source : Option SocketAddress} {retransmit : Bool}

/-- At most one of two counts is larger by one. -/
def AtMostOneMore (before after : UInt64 × UInt64) : Prop :=
  after = before ∨ after = (before.1 + 1, before.2) ∨ after = (before.1, before.2 + 1)

theorem AtMostOneMore.bounds
    {before after : UInt64 × UInt64}
    (more : AtMostOneMore before after)
    (room : before.1.toNat + before.2.toNat < 2 ^ 64 - 1) :
    before.1.toNat ≤ after.1.toNat ∧
      after.1.toNat + after.2.toNat ≤ before.1.toNat + before.2.toNat + 1 := by
  have one : (1 : UInt64).toNat = 1 := rfl
  rcases more with rfl | rfl | rfl
  · exact ⟨Nat.le_refl _, Nat.le_succ _⟩
  · dsimp only
    rw [UInt64.toNat_add, one]
    omega
  · dsimp only
    rw [UInt64.toNat_add, one]
    omega

/-- The samples in the histogram and those that were rejected. -/
def sampled (state : RoundTrip) : UInt64 × UInt64 :=
  (state.histogram.count, state.counts.rejected)

theorem sampled_sample (state : RoundTrip) (header : Header) (receivedAt : UInt64) :
    (state.sample header receivedAt).state.counts.received = state.counts.received ∧
      AtMostOneMore state.sampled (state.sample header receivedAt).state.sampled := by
  unfold sample Histogram.recordInterval
  by_cases timestamped : header.isTimestamped = true
  · rw [if_pos timestamped]
    by_cases forwards : header.sentAt ≤ receivedAt
    · rw [if_pos forwards]
      refine ⟨rfl, .inr (.inl ?_)⟩
      exact Prod.ext (Histogram.count_record _ _) rfl
    · rw [if_neg forwards]
      exact ⟨rfl, .inr (.inr rfl)⟩
  · rw [if_neg timestamped]
    exact ⟨rfl, .inl rfl⟩

/-- An accepted message is received, and at most one sample is recorded or rejected. -/
theorem sampled_accept
    (state : RoundTrip)
    (header : Header)
    (receivedAt : UInt64)
    (retransmit : Bool) :
    (state.accept header receivedAt retransmit).state.counts.received =
        state.counts.received + 1 ∧
      AtMostOneMore state.sampled
        (state.accept header receivedAt retransmit).state.sampled := by
  unfold accept
  dsimp only
  split
  · exact ⟨rfl, .inl rfl⟩
  · exact sampled_sample _ header receivedAt

theorem sampled_deliver_of_accepted
    {event : StreamEvent}
    {number : UInt64}
    (accepts : state.accepted? event = some number) :
    (state.deliver event).state.counts.received = state.counts.received + 1 ∧
      AtMostOneMore state.sampled (state.deliver event).state.sampled := by
  cases event with
  | beginOfStream | loss | endOfStream => exact absurd accepts (by simp [accepted?])
  | data payload receivedAt source retransmit =>
      simp only [accepted?] at accepts
      split at accepts
      · exact absurd accepts (by simp)
      next header decoded =>
      split at accepts
      · next fresh =>
        rw [deliver, onData_fresh decoded fresh]
        exact sampled_accept _ header receivedAt retransmit
      · exact absurd accepts (by simp)

/-- A message that is not accepted is neither received nor sampled. -/
theorem sampled_deliver_of_not_accepted
    (ignores : state.accepted? (.data payload receivedAt source retransmit) = none) :
    (state.deliver (.data payload receivedAt source retransmit)).state.counts.received =
        state.counts.received ∧
      (state.deliver (.data payload receivedAt source retransmit)).state.sampled =
        state.sampled := by
  simp only [accepted?] at ignores
  rw [deliver]
  split at ignores
  · next foreign =>
    rw [onData_foreign foreign]
    exact ⟨rfl, rfl⟩
  next header decoded =>
  split at ignores
  · exact absurd ignores (by simp)
  · next known =>
    rw [onData_known decoded known]
    exact ⟨rfl, rfl⟩

/-! ## How far the figures agree -/

/-- The figures agree after `sent` messages: `numbers` were accepted, `earlierReceived` of them
by streams before the current one, which began with `earlierSamples` samples. -/
structure Agrees
    (state : RoundTrip)
    (sent : Nat)
    (numbers : EchoHistory)
    (earlierReceived earlierSamples : Nat) :
    Prop where
  represents : state.echoes.Represents numbers
  nodup : numbers.Nodup
  below : forall number, number ∈ numbers ->
    number.toNat < sent ∧ number < UInt64.ofNat Word.limit
  total : state.flight.total = UInt64.ofNat sent
  outstanding : state.flight.outstanding = Int64.ofInt (sent - numbers.length)
  received : state.counts.received.toNat + earlierReceived = numbers.length
  sampled : state.sampled.1.toNat + state.sampled.2.toNat ≤
    state.counts.received.toNat + earlierSamples
  samples : earlierSamples ≤ state.sampled.1.toNat
  earlier : earlierSamples ≤ earlierReceived

namespace Agrees

variable {sent : Nat} {numbers : EchoHistory} {earlierReceived earlierSamples : Nat}

theorem start (bucketCount : Nat) (width : UInt64) :
    (RoundTrip.start (Histogram.fresh bucketCount width)).Agrees 0 [] 0 0 where
  represents := EchoWindow.represents_empty
  nodup := List.nodup_nil
  below := nofun
  total := rfl
  outstanding := rfl
  received := rfl
  sampled := Nat.le_refl 0
  samples := Nat.le_refl 0
  earlier := Nat.le_refl 0

/-- No more numbers were accepted than there are words, and than messages were sent. -/
theorem length_le (agrees : state.Agrees sent numbers earlierReceived earlierSamples) :
    numbers.length ≤ Word.limit ∧ numbers.length ≤ sent := by
  constructor
  · exact EchoHistory.length_le_of_nodup agrees.nodup fun number member =>
      (agrees.below number member).2
  · have within : numbers.values ⊆ Finset.range sent := by
      intro value member
      obtain ⟨number, present, rfl⟩ := List.mem_map.mp (List.mem_toFinset.mp member)
      exact Finset.mem_range.mpr (agrees.below number present).1
    have counted := Finset.card_le_card within
    rwa [EchoHistory.card_values agrees.nodup, Finset.card_range] at counted

/-- Fewer messages than half of the words leave an exact count of unconfirmed ones. -/
theorem toInt_outstanding
    (agrees : state.Agrees sent numbers earlierReceived earlierSamples)
    (few : sent < 2 ^ 63) :
    state.flight.outstanding.toInt = sent - numbers.length := by
  have fewer := agrees.length_le.2
  rw [agrees.outstanding, Int64.toInt_ofInt]
  change ((sent : Int) - numbers.length).bmod (2 ^ 64) = _
  apply Int.bmod_eq_of_le <;> omega

/-- One more message is sent. -/
theorem send (agrees : state.Agrees sent numbers earlierReceived earlierSamples) :
    state.sent.Agrees (sent + 1) numbers earlierReceived earlierSamples where
  represents := agrees.represents
  nodup := agrees.nodup
  below number member :=
    ⟨Nat.lt_succ_of_lt (agrees.below number member).1, (agrees.below number member).2⟩
  total := by
    change state.flight.total + 1 = _
    rw [agrees.total, UInt64.ofNat_add]
    rfl
  outstanding := by
    change state.flight.outstanding + Int64.ofInt 1 = _
    rw [agrees.outstanding, ← Int64.ofInt_add]
    congr 1
    omega
  received := agrees.received
  sampled := agrees.sampled
  samples := agrees.samples
  earlier := agrees.earlier

/-- A stream begins: what was received so far belongs to earlier streams. -/
theorem beginOfStream (agrees : state.Agrees sent numbers earlierReceived earlierSamples) :
    ({ state with counts := ReceiveCounts.zero } : RoundTrip).Agrees sent numbers
      (earlierReceived + state.counts.received.toNat) state.histogram.count.toNat where
  represents := agrees.represents
  nodup := agrees.nodup
  below := agrees.below
  total := agrees.total
  outstanding := agrees.outstanding
  received := by
    rw [← agrees.received]
    exact (Nat.zero_add _).trans (Nat.add_comm _ _)
  sampled := Nat.le_of_eq (Nat.add_comm _ _)
  samples := Nat.le_refl _
  earlier := by
    have sampled := agrees.sampled
    have earlier := agrees.earlier
    dsimp only [RoundTrip.sampled] at sampled
    omega

/-- What receives nothing, samples nothing and leaves the rest alone keeps the figures. -/
theorem keep
    (agrees : state.Agrees sent numbers earlierReceived earlierSamples)
    {after : RoundTrip}
    (flight : after.flight = state.flight)
    (echoes : after.echoes = state.echoes)
    (received : after.counts.received = state.counts.received)
    (sampled : after.sampled = state.sampled) :
    after.Agrees sent numbers earlierReceived earlierSamples where
  represents := echoes ▸ agrees.represents
  nodup := agrees.nodup
  below := agrees.below
  total := flight ▸ agrees.total
  outstanding := flight ▸ agrees.outstanding
  received := received ▸ agrees.received
  sampled := by rw [sampled, received]; exact agrees.sampled
  samples := by rw [sampled]; exact agrees.samples
  earlier := agrees.earlier

/-- A number is accepted: it was sent, it is a new one, and it is counted once. -/
theorem accept
    (agrees : state.Agrees sent numbers earlierReceived earlierSamples)
    {event : StreamEvent}
    {number : UInt64}
    (accepts : state.accepted? event = some number) :
    (state.deliver event).state.Agrees sent (number :: numbers) earlierReceived
      earlierSamples := by
  obtain ⟨fresh, lowered, marked, _⟩ := deliver_of_accepted accepts
  obtain ⟨received, sampled⟩ := sampled_deliver_of_accepted accepts
  have judged := agrees.represents.check_eq_verdict number state.flight.total
  obtain ⟨wasSent, wasAbsent⟩ := EchoHistory.of_verdict_fresh (judged.symm.trans fresh)
  have nodup : (number :: numbers).Nodup := List.nodup_cons.mpr ⟨wasAbsent, agrees.nodup⟩
  have below : forall other, other ∈ number :: numbers ->
      other.toNat < sent ∧ other < UInt64.ofNat Word.limit := by
    refine List.forall_mem_cons.mpr ⟨⟨?_, ?_⟩, agrees.below⟩
    · have before := UInt64.lt_iff_toNat_lt.mp wasSent
      rw [agrees.total, UInt64.toNat_ofNat'] at before
      exact Nat.lt_of_lt_of_le before (Nat.mod_le _ _)
    · exact UInt64.lt_of_lt_of_le wasSent (Word.le_limit _)
  -- The accepted numbers are distinct words below the limit, so none of the counts wraps.
  have bound : (number :: numbers).length ≤ Word.limit :=
    EchoHistory.length_le_of_nodup nodup fun other member => (below other member).2
  have before := agrees.received
  have least := agrees.sampled
  have samples := agrees.samples
  have earlier := agrees.earlier
  rw [List.length_cons] at bound
  change numbers.length + 1 ≤ 2 ^ 64 - 1 at bound
  have counted : (state.deliver event).state.counts.received.toNat =
      state.counts.received.toNat + 1 := by
    have one : (1 : UInt64).toNat = 1 := rfl
    rw [received, UInt64.toNat_add, one]
    omega
  obtain ⟨grown, within⟩ := sampled.bounds (by omega)
  refine
    { represents := marked ▸ agrees.represents.check_fresh fresh
      nodup := nodup
      below := below
      total := ?_
      outstanding := ?_
      received := ?_
      sampled := ?_
      samples := Nat.le_trans samples grown
      earlier := earlier }
  · rw [lowered]
    exact agrees.total
  · rw [lowered]
    change state.flight.outstanding - Int64.ofInt 1 = _
    rw [agrees.outstanding, ← Int64.ofInt_sub, List.length_cons]
    congr 1
    omega
  · rw [counted, List.length_cons]
    omega
  · rw [counted]
    omega

/-- Whatever message comes, the figures go on to agree. -/
theorem message
    (agrees : state.Agrees sent numbers earlierReceived earlierSamples)
    (message : Datagram) :
    exists more : EchoHistory,
      (state.deliver message.event).state.Agrees sent (more ++ numbers) earlierReceived
        earlierSamples := by
  cases accepts : state.accepted? message.event with
  | some number => exact ⟨[number], agrees.accept accepts⟩
  | none =>
      obtain ⟨flight, echoes, _⟩ := deliver_of_not_accepted accepts
      obtain ⟨received, sampled⟩ := sampled_deliver_of_not_accepted accepts
      exact ⟨[], agrees.keep flight echoes received sampled⟩

end Agrees
end RoundTrip

/-! ## What reaches a measurement -/

/-- A message outside of a stream starts the counts over before it is handled. -/
theorem Listener.roundTrip_ofMessage
    (inStream : Bool)
    (listener : Listener)
    (message : Datagram) :
    (Reception.deliver Listener.deliver
        (Reception.ofMessage inStream (some message.source) message.payload message.receivedAt)
        listener).2.roundTrip =
      ((if inStream then listener.roundTrip
        else { listener.roundTrip with counts := ReceiveCounts.zero }).deliver
          message.event).state := by
  cases inStream with
  | true =>
      change (Reception.deliver deliver [message.event] listener).2.roundTrip = _
      rw [Reception.deliver_singleton, roundTrip_deliver]
      rfl
  | false =>
      let begun := (listener.deliver (.beginOfStream (some message.source))).2
      change (Reception.deliver deliver [message.event] begun).2.roundTrip = _
      rw [Reception.deliver_singleton, roundTrip_deliver]
      rfl

namespace DatagramPath

/-- The message that an encounter hands to the handler, if it does. -/
def heard? (path : DatagramPath Sink) : Encounter -> Option Datagram
  | .attempt (.datagram payload source) now =>
      if path.ended = false ∧ payload ≠ [] then some ⟨payload, source, now⟩ else none
  | _ => none

/-- Whether an encounter begins a stream. -/
def beginsStream (path : DatagramPath Sink) (encounter : Encounter) : Bool :=
  (path.heard? encounter).isSome && !path.thread.inStream

theorem finished_of_running {path : DatagramPath Sink} (running : path.ended = false) :
    path.thread.finished = false :=
  (Bool.or_eq_false_iff.mp running).1

/-- A message that is heard is a datagram, and not an empty one. -/
theorem datagram?_of_heard
    {path : DatagramPath Sink}
    {encounter : Encounter}
    {message : Datagram}
    (heard : path.heard? encounter = some message) :
    encounter.datagram? = some message ∧ message.payload ≠ [] := by
  unfold heard? at heard
  split at heard
  · split at heard
    · next isMessage =>
      obtain rfl := Option.some.inj heard
      exact ⟨rfl, isMessage.2⟩
    · contradiction
  · contradiction

/-- A message that is heard opens the stream if need be, and is handled. -/
theorem meet_of_heard
    {path : DatagramPath Listener}
    {encounter : Encounter}
    {message : Datagram}
    (heard : path.heard? encounter = some message) :
    let after := path.meet Listener.deliver encounter
    after.thread.inStream = true ∧
      after.sink.roundTrip =
        ((if path.thread.inStream then path.sink.roundTrip
          else { path.sink.roundTrip with counts := ReceiveCounts.zero }).deliver
            message.event).state := by
  intro after
  dsimp only [after]
  unfold heard? at heard
  split at heard
  · next payload source now =>
    split at heard
    · next isMessage =>
      obtain ⟨running, nonempty⟩ := isMessage
      obtain rfl := Option.some.inj heard
      rw [meet_attempt_of_running running,
        DatagramThread.receive_message _ _ (finished_of_running running) nonempty]
      exact ⟨rfl, Listener.roundTrip_ofMessage _ path.sink ⟨payload, source, now⟩⟩
    · contradiction
  · contradiction

/-- Whatever else the thread meets does not concern the measurement, and it leaves a stream
only at an empty datagram. -/
theorem meet_of_unheard
    {path : DatagramPath Listener}
    {encounter : Encounter}
    (unheard : path.heard? encounter = none) :
    let after := path.meet Listener.deliver encounter
    after.sink.roundTrip = path.sink.roundTrip ∧
      (after.thread.inStream = path.thread.inStream ∨
        after.thread.inStream = false ∧
          exists ending, encounter.datagram? = some ending ∧ ending.payload = []) := by
  intro after
  dsimp only [after]
  cases encounter with
  | stopRequest => exact ⟨rfl, .inl rfl⟩
  | attempt arrival now =>
      cases ended : path.ended with
      | true =>
          rw [meet_attempt_of_ended ended]
          exact ⟨rfl, .inl rfl⟩
      | false =>
          have running := finished_of_running ended
          rw [meet_attempt_of_running ended]
          dsimp only
          cases arrival with
          | interrupted =>
              rw [DatagramThread.receive_interrupted _ _ running]
              exact ⟨rfl, .inl rfl⟩
          | timeout | failed =>
              rw [DatagramThread.receive_vain _ _ running rfl]
              exact ⟨rfl, .inl rfl⟩
          | datagram payload source =>
              obtain rfl : payload = [] := by
                by_contra nonempty
                rw [heard?, if_pos ⟨ended, nonempty⟩] at unheard
                contradiction
              rw [DatagramThread.receive_end _ _ running]
              refine ⟨?_, .inr ⟨rfl, ⟨[], source, now⟩, rfl, rfl⟩⟩
              cases path.thread.inStream <;> rfl

end DatagramPath

/-! ## A measurement over a history -/

/-- A measurement on a datagram path, with what goes back before its current stream. -/
structure DatagramMeasurement where
  path : DatagramPath Listener
  /-- How many messages earlier streams received. -/
  earlierReceived : Nat
  /-- How many samples there were when the stream began. -/
  earlierSamples : Nat

namespace DatagramMeasurement

/-- What can happen to a measurement on a datagram path. -/
inductive Incident
  | sent
  | met (encounter : Encounter)

namespace Incident

/-- Whether a message is about to be sent. -/
def isSent : Incident -> Bool
  | .sent => true
  | .met _ => false

/-- The datagram that arrives, if one does. -/
def datagram? : Incident -> Option Datagram
  | .sent => none
  | .met encounter => encounter.datagram?

end Incident

/-- The measurement itself. -/
def roundTrip (measurement : DatagramMeasurement) : RoundTrip :=
  measurement.path.sink.roundTrip

/-- A measurement before anything happens. -/
def start (bucketCount : Nat) (width : UInt64) (reporter : Reporter) : DatagramMeasurement where
  path := DatagramPath.start ⟨RoundTrip.start (Histogram.fresh bucketCount width), reporter⟩
  earlierReceived := 0
  earlierSamples := 0

/-- A message is sent, or the receive thread meets something. -/
def step (measurement : DatagramMeasurement) : Incident -> DatagramMeasurement
  | .sent =>
      let listener := measurement.path.sink
      { measurement with
        path :=
          { measurement.path with
            sink := { listener with roundTrip := listener.roundTrip.sent } } }
  | .met encounter =>
      let before := measurement.roundTrip
      let path := measurement.path.meet Listener.deliver encounter
      if measurement.path.beginsStream encounter then
        { path := path
          earlierReceived := measurement.earlierReceived + before.counts.received.toNat
          earlierSamples := before.histogram.count.toNat }
      else
        { measurement with path := path }

/-- A fresh measurement after a history. -/
def ofHistory
    (bucketCount : Nat)
    (width : UInt64)
    (reporter : Reporter)
    (history : List Incident) :
    DatagramMeasurement :=
  history.foldl step (start bucketCount width reporter)

theorem ofHistory_append_singleton
    (bucketCount : Nat)
    (width : UInt64)
    (reporter : Reporter)
    (earlier : List Incident)
    (latest : Incident) :
    ofHistory bucketCount width reporter (earlier ++ [latest]) =
      (ofHistory bucketCount width reporter earlier).step latest := by
  unfold ofHistory
  rw [List.foldl_append]
  rfl

/-- Whether the receive thread is in a stream. -/
def inStream (measurement : DatagramMeasurement) : Bool :=
  measurement.path.thread.inStream

/-- What can come of an encounter. -/
inductive Outcome
    (before : DatagramMeasurement)
    (encounter : Encounter)
    (after : DatagramMeasurement) :
    Prop
  /-- Nothing is heard, but a stream may end. -/
  | unheard
      (roundTrip : after.roundTrip = before.roundTrip)
      (received : after.earlierReceived = before.earlierReceived)
      (samples : after.earlierSamples = before.earlierSamples)
      (inStream : after.inStream = before.inStream ∨
        after.inStream = false ∧
          exists ending, encounter.datagram? = some ending ∧ ending.payload = [])
  /-- A stream goes on with a message. -/
  | goesOn
      (message : Datagram)
      (isDatagram : encounter.datagram? = some message)
      (nonempty : message.payload ≠ [])
      (roundTrip : after.roundTrip = (before.roundTrip.deliver message.event).state)
      (received : after.earlierReceived = before.earlierReceived)
      (samples : after.earlierSamples = before.earlierSamples)
      (inStream : after.inStream = true)
  /-- A stream begins with a message. -/
  | begins
      (message : Datagram)
      (isDatagram : encounter.datagram? = some message)
      (nonempty : message.payload ≠ [])
      (outside : before.inStream = false)
      (roundTrip : after.roundTrip =
        (({ before.roundTrip with counts := ReceiveCounts.zero } : RoundTrip).deliver
          message.event).state)
      (received : after.earlierReceived =
        before.earlierReceived + before.roundTrip.counts.received.toNat)
      (samples : after.earlierSamples = before.roundTrip.histogram.count.toNat)
      (inStream : after.inStream = true)

theorem outcome_step (measurement : DatagramMeasurement) (encounter : Encounter) :
    measurement.Outcome encounter (measurement.step (.met encounter)) := by
  unfold step DatagramPath.beginsStream
  dsimp only
  cases heard : measurement.path.heard? encounter with
  | none =>
      obtain ⟨same, inStream⟩ := DatagramPath.meet_of_unheard heard
      exact .unheard same rfl rfl inStream
  | some message =>
      obtain ⟨isDatagram, nonempty⟩ := DatagramPath.datagram?_of_heard heard
      obtain ⟨inStream, delivered⟩ := DatagramPath.meet_of_heard heard
      cases before : measurement.path.thread.inStream with
      | true =>
          rw [before] at delivered
          exact .goesOn message isDatagram nonempty delivered rfl rfl inStream
      | false =>
          rw [before] at delivered
          exact .begins message isDatagram nonempty before delivered rfl rfl inStream

/-- After any history the figures agree. -/
theorem agrees_ofHistory
    (bucketCount : Nat)
    (width : UInt64)
    (reporter : Reporter)
    (history : List Incident) :
    exists numbers : EchoHistory,
      (ofHistory bucketCount width reporter history).roundTrip.Agrees
        (history.countP Incident.isSent) numbers
        (ofHistory bucketCount width reporter history).earlierReceived
        (ofHistory bucketCount width reporter history).earlierSamples := by
  induction history using List.reverseRecOn with
  | nil => exact ⟨[], .start bucketCount width⟩
  | append_singleton earlier latest hypothesis =>
      obtain ⟨numbers, agrees⟩ := hypothesis
      rw [ofHistory_append_singleton, List.countP_append]
      cases latest with
      | sent => exact ⟨numbers, agrees.send⟩
      | met encounter =>
          cases outcome_step (ofHistory bucketCount width reporter earlier) encounter with
          | unheard same received samples _ =>
              rw [same, received, samples]
              exact ⟨numbers, agrees⟩
          | goesOn message _ _ delivered received samples _ =>
              obtain ⟨more, after⟩ := agrees.message message
              rw [delivered, received, samples]
              exact ⟨_, after⟩
          | begins message _ _ _ delivered received samples _ =>
              obtain ⟨more, after⟩ := agrees.beginOfStream.message message
              rw [delivered, received, samples]
              exact ⟨_, after⟩

/-! ## Histories with one stream -/

/-- A message comes behind an empty datagram that itself comes behind a message. -/
def Resumes (datagrams : List Datagram) : Prop :=
  exists first ending second : Datagram,
    first.payload ≠ [] ∧ ending.payload = [] ∧ second.payload ≠ [] ∧
      [first, ending, second].Sublist datagrams

theorem Resumes.append {datagrams : List Datagram} (resumes : Resumes datagrams)
    (others : List Datagram) : Resumes (datagrams ++ others) := by
  obtain ⟨first, ending, second, starts, ends, resumes, inOrder⟩ := resumes
  exact ⟨first, ending, second, starts, ends, resumes,
    inOrder.trans (List.sublist_append_left _ _)⟩

/-- Earlier streams received something only if a message came behind an end. -/
structure Undivided (measurement : DatagramMeasurement) (datagrams : List Datagram) : Prop where
  begun : measurement.inStream = true ->
    exists first : Datagram, first.payload ≠ [] ∧ [first].Sublist datagrams
  ended : measurement.inStream = false -> measurement.roundTrip.counts.received.toNat ≠ 0 ->
    exists first ending : Datagram,
      first.payload ≠ [] ∧ ending.payload = [] ∧ [first, ending].Sublist datagrams
  resumed : measurement.earlierReceived ≠ 0 -> Resumes datagrams

namespace Undivided

variable {before after : DatagramMeasurement} {datagrams : List Datagram}

/-- More datagrams, and nothing else, change nothing. -/
theorem append (undivided : before.Undivided datagrams) (others : List Datagram) :
    before.Undivided (datagrams ++ others) where
  begun inStream := by
    obtain ⟨first, starts, inOrder⟩ := undivided.begun inStream
    exact ⟨first, starts, inOrder.trans (List.sublist_append_left _ _)⟩
  ended outside received := by
    obtain ⟨first, ending, starts, ends, inOrder⟩ := undivided.ended outside received
    exact ⟨first, ending, starts, ends, inOrder.trans (List.sublist_append_left _ _)⟩
  resumed earlier := (undivided.resumed earlier).append others

/-- What is read off a measurement decides. -/
theorem congr
    (undivided : before.Undivided datagrams)
    (inStream : after.inStream = before.inStream)
    (counts : after.roundTrip.counts = before.roundTrip.counts)
    (received : after.earlierReceived = before.earlierReceived) :
    after.Undivided datagrams where
  begun := inStream ▸ undivided.begun
  ended := inStream ▸ counts ▸ undivided.ended
  resumed := received ▸ undivided.resumed

/-- An empty datagram leaves a stream that has begun. -/
theorem close
    (undivided : before.Undivided datagrams)
    {ending : Datagram}
    (ends : ending.payload = [])
    (outside : after.inStream = false)
    (counts : after.roundTrip.counts = before.roundTrip.counts)
    (received : after.earlierReceived = before.earlierReceived) :
    after.Undivided (datagrams ++ [ending]) where
  begun inStream := by simp [outside] at inStream
  ended _ some := by
    cases wasInStream : before.inStream with
    | true =>
        obtain ⟨first, starts, inOrder⟩ := undivided.begun wasInStream
        exact ⟨first, ending, starts, ends, inOrder.append (List.Sublist.refl [ending])⟩
    | false =>
        rw [counts] at some
        exact (undivided.append [ending]).ended wasInStream some
  resumed := by
    rw [received]
    exact (undivided.append [ending]).resumed

/-- A message is heard, and the counts begin anew outside of a stream. -/
theorem hear
    (undivided : before.Undivided datagrams)
    {message : Datagram}
    (nonempty : message.payload ≠ [])
    (inStream : after.inStream = true)
    (received : after.earlierReceived = before.earlierReceived ∨
      before.inStream = false ∧
        after.earlierReceived =
          before.earlierReceived + before.roundTrip.counts.received.toNat) :
    after.Undivided (datagrams ++ [message]) where
  begun _ := ⟨message, nonempty, List.sublist_append_right _ _⟩
  ended outside := by simp [inStream] at outside
  resumed := by
    intro earlier
    by_cases already : before.earlierReceived = 0
    · obtain same | ⟨outside, counted⟩ := received
      · exact absurd (same.trans already) earlier
      · rw [counted, already, Nat.zero_add] at earlier
        obtain ⟨first, ending, starts, ends, inOrder⟩ := undivided.ended outside earlier
        exact ⟨first, ending, message, starts, ends, nonempty,
          inOrder.append (List.Sublist.refl [message])⟩
    · exact (undivided.resumed already).append [message]

end Undivided

/-- Whatever happens, earlier streams received something only if a message came behind an
end. -/
theorem undivided_ofHistory
    (bucketCount : Nat)
    (width : UInt64)
    (reporter : Reporter)
    (history : List Incident) :
    (ofHistory bucketCount width reporter history).Undivided
      (history.filterMap Incident.datagram?) := by
  induction history using List.reverseRecOn with
  | nil => exact ⟨nofun, fun _ received => absurd rfl received, fun earlier => absurd rfl earlier⟩
  | append_singleton earlier latest hypothesis =>
      rw [ofHistory_append_singleton, List.filterMap_append]
      cases latest with
      | sent => exact (hypothesis.append _).congr rfl rfl rfl
      | met encounter =>
          have arrives {message : Datagram} (isDatagram : encounter.datagram? = some message) :
              [Incident.met encounter].filterMap Incident.datagram? = [message] := by
            simp [Incident.datagram?, isDatagram]
          cases outcome_step (ofHistory bucketCount width reporter earlier) encounter with
          | unheard same received _ inStream =>
              obtain stays | ⟨outside, ending, isDatagram, ends⟩ := inStream
              · exact (hypothesis.append _).congr stays (congrArg _ same) received
              · rw [arrives isDatagram]
                exact hypothesis.close ends outside (congrArg _ same) received
          | goesOn message isDatagram nonempty _ received _ inStream =>
              rw [arrives isDatagram]
              exact hypothesis.hear nonempty inStream (.inl received)
          | begins message isDatagram nonempty outside _ received _ inStream =>
              rw [arrives isDatagram]
              exact hypothesis.hear nonempty inStream (.inr ⟨outside, received⟩)

/-! ## The figures -/

/-- The figures of a measurement agree if `earlierReceived` messages were received and
`earlierSamples` samples recorded before the counts began. -/
structure FiguresAgree (state : RoundTrip) (earlierReceived earlierSamples : Nat) : Prop where
  /-- No sample was recorded without a message that was received. -/
  earlier : earlierSamples ≤ earlierReceived ∧ earlierSamples ≤ state.histogram.count.toNat
  samples : state.histogram.count.toNat - earlierSamples + state.counts.rejected.toNat ≤
    state.counts.received.toNat
  /-- Exactly, as a difference of words. -/
  outstanding : state.flight.outstanding =
    Int64.ofInt (state.flight.total.toNat - (state.counts.received.toNat + earlierReceived))

theorem ofInt_toNat_ofNat_sub (minuend subtrahend : Nat) :
    Int64.ofInt ((UInt64.ofNat minuend).toNat - subtrahend) =
      Int64.ofInt (minuend - subtrahend) := by
  apply Int64.toInt_inj.mp
  rw [Int64.toInt_ofInt, Int64.toInt_ofInt, UInt64.toNat_ofNat']
  push_cast
  exact Int.emod_sub_bmod minuend Int64.size

theorem FiguresAgree.of_agrees
    {state : RoundTrip}
    {sent : Nat}
    {numbers : EchoHistory}
    {earlierReceived earlierSamples : Nat}
    (agrees : state.Agrees sent numbers earlierReceived earlierSamples) :
    FiguresAgree state earlierReceived earlierSamples where
  earlier := ⟨agrees.earlier, agrees.samples⟩
  samples := by
    have sampled := agrees.sampled
    have samples := agrees.samples
    dsimp only [RoundTrip.sampled] at sampled samples
    omega
  outstanding := by
    rw [agrees.outstanding, agrees.total, ← Nat.cast_add, agrees.received, ofInt_toNat_ofNat_sub]

/-- Whatever is sent and whatever a datagram receive thread meets, the samples since the
current stream began and the rejected ones are no more than the received messages, and the
unconfirmed messages are those sent less the received ones, those that earlier streams received
included. The counts leave these out; but there are none as long as no message comes behind
an end, and then the histogram, the counts and the flight counters agree as a whole. -/
theorem figures_agree_since_stream_began
    (bucketCount : Nat)
    (width : UInt64)
    (reporter : Reporter)
    (history : List Incident) :
    let measurement := ofHistory bucketCount width reporter history
    let state := measurement.roundTrip
    let sent := history.countP Incident.isSent
    FiguresAgree state measurement.earlierReceived measurement.earlierSamples ∧
      state.flight.total = UInt64.ofNat sent ∧
      (sent < 2 ^ 63 ->
        state.flight.outstanding.toInt =
          sent - (state.counts.received.toNat + measurement.earlierReceived)) ∧
      (¬ Resumes (history.filterMap Incident.datagram?) ->
        measurement.earlierReceived = 0 ∧ FiguresAgree state 0 0) := by
  intro measurement state sent
  obtain ⟨numbers, agrees⟩ := agrees_ofHistory bucketCount width reporter history
  have undivided := undivided_ofHistory bucketCount width reporter history
  have figures := FiguresAgree.of_agrees agrees
  refine ⟨figures, agrees.total, ?_, ?_⟩
  · intro few
    rw [agrees.toInt_outstanding few, ← Nat.cast_add, ← agrees.received]
  · intro whole
    have noneReceived : measurement.earlierReceived = 0 := by
      by_contra some
      exact whole (undivided.resumed some)
    have noSamples : measurement.earlierSamples = 0 :=
      Nat.le_zero.mp (noneReceived ▸ figures.earlier.1)
    rw [noneReceived, noSamples] at figures
    exact ⟨noneReceived, figures⟩

/-- Both messages are confirmed and sampled. But a stranger ends the stream between them, so
the counts of the second stream are short of one received message. -/
theorem figures_differ_after_stranger :
    let peer := SocketAddress.v4 Ipv4.unspecified 9
    let stranger := SocketAddress.v4 Ipv4.unspecified 666
    let echo (number : UInt64) : Incident :=
      .met (.attempt (.datagram (Header.atFront ⟨number, 5, 1⟩ []) peer) 8)
    let history := [.sent, .sent, echo 0, .met (.attempt (.datagram [] stranger) 9), echo 1]
    let state := (ofHistory 10 100 ⟨none, ⟨fun _ _ => true, []⟩, .willing, #[]⟩ history).roundTrip
    (state.histogram.count = 2 ∧ state.counts.rejected = 0 ∧ state.counts.received = 1 ∧
        state.flight.outstanding = 0 ∧ state.flight.total = 2) ∧
      ¬ state.histogram.count.toNat + state.counts.rejected.toNat ≤
        state.counts.received.toNat ∧
      ¬ state.flight.outstanding.toInt =
        state.flight.total.toNat - state.counts.received.toNat := by
  decide +kernel

end DatagramMeasurement
end LatencyMeter

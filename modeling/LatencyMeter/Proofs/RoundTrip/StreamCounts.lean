import LatencyMeter.Proofs.RoundTrip.Accounting
import LatencyMeter.Proofs.RoundTrip.Sampling
import Mathlib.Data.List.DropRight

/-!
# What is counted since a stream began

The counts of a measurement are about the stream that began last. Each message with a
header that the stream has brought is judged by the echo window, and what was judged says
how all five counts stand and which samples the histogram was given: `Tallied` ties them
together, every event keeps them tied, and the beginning of a stream starts them over.

An observer learns the judgements from the traffic alone. A message that is not judged
changes nothing, and one that is judged and not accepted changes the count of ignored
echoes and nothing else.
-/

namespace LatencyMeter

/-! ## Streams in traffic -/

namespace Traffic

/-- Whether a stream begins. -/
def beginsStream : Traffic -> Bool
  | .delivered (.beginOfStream _) => true
  | _ => false

/-- Whether the stream reports a message as lost. -/
def isLoss : Traffic -> Bool
  | .delivered .loss => true
  | _ => false

/-- The message that is delivered, if it has a header. -/
def echo? : Traffic -> Option Echo
  | .delivered (.data payload receivedAt _ retransmit) =>
      match Header.decode payload with
      | .ok header => some ⟨header, receivedAt, retransmit⟩
      | .error _ => none
  | _ => none

/-- Whether a message with room for a header is delivered. -/
def isMessage : Traffic -> Bool
  | .delivered (.data payload _ _ _) => Header.size ≤ payload.length
  | _ => false

theorem isSome_echo? (item : Traffic) : item.echo?.isSome = item.isMessage := by
  unfold echo? isMessage Header.decode
  split
  · next payload receivedAt source retransmit =>
    by_cases fits : Header.size ≤ payload.length <;> simp [fits]
  · rfl

/-- The traffic up to the beginning of the last stream, that beginning included. -/
def beforeStream (traffic : List Traffic) : List Traffic :=
  traffic.rdropWhile fun item => !item.beginsStream

/-- The traffic since the last stream began, or all of it if none did. -/
def sinceStream (traffic : List Traffic) : List Traffic :=
  traffic.rtakeWhile fun item => !item.beginsStream

theorem beforeStream_append_sinceStream (traffic : List Traffic) :
    beforeStream traffic ++ sinceStream traffic = traffic :=
  List.rdropWhile_append_rtakeWhile

theorem not_beginsStream_of_mem
    {traffic : List Traffic}
    {item : Traffic}
    (member : item ∈ sinceStream traffic) :
    item.beginsStream = false := by
  simpa using List.mem_rtakeWhile_imp member

/-- What comes before a stream is nothing, or it ends with the beginning of the stream. -/
theorem beforeStream_cases (traffic : List Traffic) :
    beforeStream traffic = [] ∨
      exists earlier source,
        beforeStream traffic = earlier ++ [.delivered (.beginOfStream source)] := by
  rcases List.eq_nil_or_concat (beforeStream traffic) with none | ⟨earlier, last, split⟩
  · exact .inl none
  · refine .inr ⟨earlier, ?_⟩
    have nonempty : beforeStream traffic ≠ [] := by simp [split]
    have isLast : (beforeStream traffic).getLast nonempty = last := by simp [split]
    have begins : last.beginsStream = true := by
      have stopped := List.rdropWhile_last_not _ _ nonempty
      simpa [← isLast, beforeStream] using stopped
    unfold beginsStream at begins
    split at begins
    · next source => exact ⟨source, by simpa using split⟩
    · contradiction

end Traffic

/-! ## Judgements -/

/-- A message with a header, and the verdict on its number. -/
structure Judgement where
  echo : Echo
  verdict : EchoVerdict
  deriving DecidableEq, Repr

namespace Judgement

variable (judgement : Judgement)

/-- Whether the message confirms its number. -/
def accepted : Bool := judgement.verdict = .fresh

/-- Whether the message is accepted and came by a recovery path. -/
def recovered : Bool := judgement.accepted && judgement.echo.retransmit

/-- Whether the round trip of the accepted message is to be recorded. -/
def timed : Bool := judgement.accepted && judgement.echo.header.isTimestamped

/-- Whether the round trip that is to be recorded runs backwards in time. -/
def backwards : Bool :=
  judgement.timed && decide (judgement.echo.receivedAt < judgement.echo.header.sentAt)

/-- The sample that the message adds to the histogram, if it adds one. -/
def sample? : Option UInt64 :=
  if judgement.timed && !judgement.backwards then
    some (judgement.echo.receivedAt - judgement.echo.header.sentAt)
  else
    none

/-- The samples that messages add to the histogram, in order. -/
def samples (judged : List Judgement) : List UInt64 := judged.filterMap sample?

/-- A round trip that is to be recorded is added to the histogram or runs backwards. -/
theorem length_samples_add_backwards (judged : List Judgement) :
    (samples judged).length + judged.countP backwards = judged.countP timed := by
  induction judged with
  | nil => rfl
  | cons judgement rest hypothesis =>
      rw [List.countP_cons, List.countP_cons, ← hypothesis, samples, List.filterMap_cons,
        sample?]
      cases isTimed : judgement.timed <;> cases isBackwards : judgement.backwards <;>
        simp [samples, backwards, isTimed] at isBackwards ⊢ <;> omega

end Judgement

/-! ## What one message does -/

namespace Judgement

/-- The counts after a message that was judged. -/
def count (judgement : Judgement) (counts : ReceiveCounts) : ReceiveCounts where
  received := counts.received + if judgement.accepted then 1 else 0
  retransmitted := counts.retransmitted + if judgement.recovered then 1 else 0
  lost := counts.lost
  rejected := counts.rejected + if judgement.backwards then 1 else 0
  ignored := counts.ignored + if judgement.accepted then 0 else 1

/-- The histogram after a message that was judged. -/
def record (judgement : Judgement) (histogram : Histogram) : Histogram :=
  judgement.sample?.toList.foldl Histogram.record histogram

end Judgement

namespace RoundTrip

variable {state : RoundTrip} {header : Header} {payload : Payload} {receivedAt : UInt64}
  {source : Option SocketAddress} {retransmit : Bool}

/-- The judgement on a message. -/
def judge (state : RoundTrip) (echo : Echo) : Judgement :=
  ⟨echo, (state.echoes.check echo.header.number state.flight.total).1⟩

/-- The measurement once a message was counted and its number confirmed. -/
def confirmed (state : RoundTrip) (header : Header) (retransmit : Bool) : RoundTrip :=
  { state with
    counts := state.counts.addMessage retransmit
    flight := state.flight.lower
    echoes := (state.echoes.check header.number state.flight.total).2 }

/-- A fresh message whose confirmation is no fault is counted, confirmed and sampled. -/
theorem onData_of_faultless
    (decoded : Header.decode payload = .ok header)
    (fresh : (state.echoes.check header.number state.flight.total).1 = .fresh)
    (faultless : (state.onData payload receivedAt retransmit).fault = none) :
    state.onData payload receivedAt retransmit =
      (state.confirmed header retransmit).sample header receivedAt := by
  rw [onData_fresh decoded fresh] at faultless ⊢
  rw [fault_accept] at faultless
  split at faultless
  · contradiction
  next notNegative =>
  unfold accept Flight.confirm
  dsimp only at notNegative ⊢
  rw [if_neg notNegative]
  rfl

/-- What sampling an accepted message leaves behind. -/
theorem sample_of_accepted
    (state : RoundTrip)
    {judgement : Judgement}
    (accepted : judgement.accepted = true) :
    let sampled := state.sample judgement.echo.header judgement.echo.receivedAt
    sampled.state.counts =
        { state.counts with
          rejected := state.counts.rejected + if judgement.backwards then 1 else 0 } ∧
      sampled.state.histogram = judgement.record state.histogram := by
  unfold sample Histogram.recordInterval Judgement.record Judgement.sample?
    Judgement.backwards Judgement.timed
  rw [accepted]
  by_cases timestamped : judgement.echo.header.isTimestamped = true
  · by_cases forwards : judgement.echo.header.sentAt ≤ judgement.echo.receivedAt
    · have notBackwards := UInt64.not_lt.mpr forwards
      simp [timestamped, forwards, notBackwards]
    · have backwards := UInt64.not_le.mp forwards
      simp [timestamped, forwards, backwards, ReceiveCounts.addRejected]
  · simp [timestamped]

/-- A message that is judged is counted and recorded as the judgement says, unless its
confirmation is a fault. -/
theorem deliver_judged
    (decoded : Header.decode payload = .ok header)
    (faultless : (state.deliver (.data payload receivedAt source retransmit)).fault = none) :
    let judgement := state.judge ⟨header, receivedAt, retransmit⟩
    let after := (state.deliver (.data payload receivedAt source retransmit)).state
    after.counts = judgement.count state.counts ∧
      after.histogram = judgement.record state.histogram := by
  intro judgement after
  rw [deliver] at faultless
  by_cases fresh : (state.echoes.check header.number state.flight.total).1 = .fresh
  · have accepted : judgement.accepted = true := decide_eq_true fresh
    have handled : after = ((state.confirmed header retransmit).sample header receivedAt).state :=
      congrArg Step.state (onData_of_faultless decoded fresh faultless)
    obtain ⟨counts, histogram⟩ :=
      (state.confirmed header retransmit).sample_of_accepted accepted
    rw [handled]
    refine ⟨counts.trans ?_, histogram⟩
    have recovered : judgement.recovered = retransmit := by
      change (judgement.accepted && retransmit) = retransmit
      rw [accepted, Bool.true_and]
    unfold Judgement.count confirmed ReceiveCounts.addMessage
    rw [accepted, recovered]
    cases retransmit <;> simp
  · have known : judgement.accepted = false := decide_eq_false fresh
    have handled : after = (state.ignore header.number judgement.verdict).state :=
      congrArg Step.state (onData_known decoded fresh)
    have untimed : judgement.timed = false := by simp [Judgement.timed, known]
    rw [handled]
    constructor
    · simp [ignore, Judgement.count, ReceiveCounts.addIgnored, Judgement.recovered,
        Judgement.backwards, untimed, known]
    · simp [ignore, Judgement.record, Judgement.sample?, untimed]

/-- A payload too short for a header changes nothing. -/
theorem deliver_short (short : payload.length < Header.size) :
    (state.deliver (.data payload receivedAt source retransmit)).state = state := by
  have foreign : Header.decode payload = .error (.noHeader payload.length) :=
    if_neg (Nat.not_le.mpr short)
  rw [deliver, onData_foreign foreign]

/-- A message that is not accepted changes nothing but the count of ignored echoes. -/
theorem deliver_not_accepted
    (decoded : Header.decode payload = .ok header)
    (known : (state.judge ⟨header, receivedAt, retransmit⟩).accepted = false) :
    (state.deliver (.data payload receivedAt source retransmit)).state =
      { state with counts := state.counts.addIgnored } := by
  rw [deliver, onData_known decoded (of_decide_eq_false known)]
  rfl

/-! ## What a stream leaves behind -/

/-- The counts of a measurement and its histogram are what the judgements and losses of a
stream make of them, if the stream began with a histogram and no counts. -/
structure Tallied
    (state : RoundTrip)
    (opening : Histogram)
    (judged : List Judgement)
    (losses : Nat) : Prop where
  received : state.counts.received = UInt64.ofNat (judged.countP Judgement.accepted)
  retransmitted : state.counts.retransmitted = UInt64.ofNat (judged.countP Judgement.recovered)
  lost : state.counts.lost = UInt64.ofNat losses
  rejected : state.counts.rejected = UInt64.ofNat (judged.countP Judgement.backwards)
  all : state.counts.received + state.counts.ignored = UInt64.ofNat judged.length
  histogram : state.histogram = (Judgement.samples judged).foldl Histogram.record opening

namespace Tallied

variable {after : RoundTrip} {opening : Histogram} {judged : List Judgement} {losses : Nat}

/-- A stream that has brought nothing yet. -/
theorem opens (blank : state.counts = ReceiveCounts.zero) :
    state.Tallied state.histogram [] 0 := by
  refine ⟨?_, ?_, ?_, ?_, ?_, rfl⟩ <;> rw [blank] <;> rfl

theorem ofNat_countP_append_singleton
    (predicate : Judgement -> Bool)
    (latest : Judgement) :
    UInt64.ofNat ((judged ++ [latest]).countP predicate) =
      UInt64.ofNat (judged.countP predicate) + if predicate latest then 1 else 0 := by
  rw [List.countP_append, List.countP_singleton, UInt64.ofNat_add]
  split <;> rfl

/-- One more message is judged. -/
theorem judge
    (tallied : state.Tallied opening judged losses)
    {judgement : Judgement}
    (counts : after.counts = judgement.count state.counts)
    (histogram : after.histogram = judgement.record state.histogram) :
    after.Tallied opening (judged ++ [judgement]) losses := by
  refine ⟨?_, ?_, ?_, ?_, ?_, ?_⟩
  · rw [counts, ofNat_countP_append_singleton, ← tallied.received]
    rfl
  · rw [counts, ofNat_countP_append_singleton, ← tallied.retransmitted]
    rfl
  · rw [counts, ← tallied.lost]
    rfl
  · rw [counts, ofNat_countP_append_singleton, ← tallied.rejected]
    rfl
  -- Each judged message is received or ignored.
  · have either : state.counts.received + (if judgement.accepted then 1 else 0) +
        (state.counts.ignored + if judgement.accepted then 0 else 1) =
          state.counts.received + state.counts.ignored + 1 := by
      cases judgement.accepted
      · simp [UInt64.add_assoc]
      · simp [UInt64.add_assoc, UInt64.add_comm 1]
    rw [List.length_append, UInt64.ofNat_add, ← tallied.all, counts]
    exact either
  · rw [histogram, tallied.histogram, Judgement.record, Judgement.samples, Judgement.samples,
      List.filterMap_append, List.foldl_append]
    cases sampled : judgement.sample? <;> simp [sampled]

/-- One more loss is reported. -/
theorem lose (tallied : state.Tallied opening judged losses) :
    (state.deliver .loss).state.Tallied opening judged (losses + 1) where
  received := tallied.received
  retransmitted := tallied.retransmitted
  lost := by
    rw [UInt64.ofNat_add, ← tallied.lost]
    rfl
  rejected := tallied.rejected
  all := tallied.all
  histogram := tallied.histogram

/-- Sending leaves counts and histogram alone. -/
theorem sent (tallied : state.Tallied opening judged losses) :
    state.sent.Tallied opening judged losses :=
  ⟨tallied.received, tallied.retransmitted, tallied.lost, tallied.rejected, tallied.all,
    tallied.histogram⟩

end Tallied
end RoundTrip

/-! ## Any traffic -/

namespace Account

/-- The judgement on the message that is delivered, if it has a header. -/
def judging? (account : Account) (item : Traffic) : Option Judgement :=
  item.echo?.map account.listener.roundTrip.judge

/-- The judgements on the messages of some traffic. -/
def judgements : Account -> List Traffic -> List Judgement
  | _, [] => []
  | account, item :: rest => (account.judging? item).toList ++ (account.step item).judgements rest

theorem judgements_append_singleton
    (account : Account)
    (earlier : List Traffic)
    (latest : Traffic) :
    account.judgements (earlier ++ [latest]) =
      account.judgements earlier ++ ((earlier.foldl step account).judging? latest).toList := by
  induction earlier generalizing account with
  | nil => simp [judgements]
  | cons item rest hypothesis =>
      rw [List.cons_append, judgements, judgements, hypothesis, List.append_assoc]
      rfl

/-- Every message with a header is judged once, in the order of the traffic. -/
theorem map_echo_judgements (account : Account) (traffic : List Traffic) :
    (account.judgements traffic).map Judgement.echo = traffic.filterMap Traffic.echo? := by
  induction traffic generalizing account with
  | nil => rfl
  | cons item rest hypothesis =>
      rw [judgements, List.map_append, hypothesis, judging?, List.filterMap_cons]
      cases item.echo? <;> rfl

theorem length_judgements (account : Account) (traffic : List Traffic) :
    (account.judgements traffic).length = traffic.countP Traffic.isMessage := by
  rw [← List.length_map Judgement.echo, map_echo_judgements, List.length_filterMap_eq_countP]
  refine List.countP_congr fun item _ => ?_
  rw [Traffic.isSome_echo?]

@[simp] theorem roundTrip_step_sent (account : Account) :
    (account.step .sent).listener.roundTrip = account.listener.roundTrip.sent := rfl

@[simp] theorem roundTrip_step_delivered (account : Account) (event : StreamEvent) :
    (account.step (.delivered event)).listener.roundTrip =
      (account.listener.roundTrip.deliver event).state := rfl

theorem faults_of_step
    {account : Account}
    {item : Traffic}
    (faultless : (account.step item).faults = []) :
    account.faults = [] := by
  cases item with
  | sent => exact faultless
  | delivered event =>
      rw [faults_step_delivered] at faultless
      exact (List.append_eq_nil_iff.mp faultless).2

/-- Whatever happens within a stream is tallied, unless a confirmation is a fault. -/
theorem tallied_step
    {account : Account}
    {opening : Histogram}
    {judged : List Judgement}
    {losses : Nat}
    (tallied : account.listener.roundTrip.Tallied opening judged losses)
    {item : Traffic}
    (goesOn : item.beginsStream = false)
    (faultless : (account.step item).faults = []) :
    (account.step item).listener.roundTrip.Tallied opening
      (judged ++ (account.judging? item).toList)
      (losses + if item.isLoss then 1 else 0) := by
  cases item with
  | sent => simpa [judging?, Traffic.echo?, Traffic.isLoss] using tallied.sent
  | delivered event =>
      rw [roundTrip_step_delivered]
      cases event with
      | beginOfStream source => simp [Traffic.beginsStream] at goesOn
      | loss => simpa [judging?, Traffic.echo?, Traffic.isLoss] using tallied.lose
      | endOfStream source =>
          simpa [judging?, Traffic.echo?, Traffic.isLoss, RoundTrip.deliver] using tallied
      | data payload receivedAt source retransmit =>
          rw [faults_step_delivered] at faultless
          have unfailing := Option.toList_eq_nil_iff.mp (List.append_eq_nil_iff.mp faultless).1
          cases decoded : Header.decode payload with
          | ok header =>
              obtain ⟨counts, histogram⟩ := RoundTrip.deliver_judged decoded unfailing
              simpa [judging?, Traffic.echo?, Traffic.isLoss, decoded] using
                tallied.judge counts histogram
          | error fault =>
              simpa [judging?, Traffic.echo?, Traffic.isLoss, decoded, RoundTrip.deliver,
                RoundTrip.onData_foreign decoded] using tallied

/-- A stream is tallied from its beginning on. -/
theorem tallied_foldl
    {account : Account}
    (blank : account.listener.roundTrip.counts = ReceiveCounts.zero)
    {stream : List Traffic}
    (undivided : forall item, item ∈ stream -> item.beginsStream = false)
    (faultless : (stream.foldl step account).faults = []) :
    (stream.foldl step account).listener.roundTrip.Tallied account.listener.roundTrip.histogram
      (account.judgements stream) (stream.countP Traffic.isLoss) := by
  -- From the end, since what the last item does depends on all that came before.
  induction stream using List.reverseRecOn with
  | nil => exact .opens blank
  | append_singleton earlier latest hypothesis =>
      rw [List.foldl_append] at faultless ⊢
      have tallied := hypothesis
        (fun item member => undivided item (List.mem_append_left _ member))
        (faults_of_step faultless)
      rw [judgements_append_singleton, List.countP_append, List.countP_singleton]
      exact tallied_step tallied (undivided latest (by simp)) faultless

/-- The counts are zero where a stream begins. -/
theorem counts_beforeStream
    (histogram : Histogram)
    (reporter : Reporter)
    (traffic : List Traffic) :
    (ofTraffic histogram reporter (Traffic.beforeStream traffic)).listener.roundTrip.counts =
      ReceiveCounts.zero := by
  rcases Traffic.beforeStream_cases traffic with none | ⟨earlier, source, split⟩
  · rw [none]
    rfl
  · rw [split, ofTraffic_append_singleton]
    rfl

/-- Since a stream began, whatever was sent and delivered, each message with a header was
judged once. As words hold them, the counts are those of the accepted messages, of the
recovered ones among them, of all others, of the losses and of the round trips that ran
backwards; the histogram was given exactly the samples of the others that were to be
recorded. A payload without room for a header changes nothing, and a message that is not
accepted nothing but the count of ignored echoes. All this holds as long as no confirmation
was a fault, which no fewer than `2 ^ 63` messages can bring about: the condition excludes an
overflow of the counters and nothing else. -/
theorem counts_since_stream_began
    (histogram : Histogram)
    (reporter : Reporter)
    (traffic : List Traffic)
    (undisturbed : traffic.countP Traffic.isSent < 2 ^ 63 ∨
      (ofTraffic histogram reporter traffic).faults = []) :
    let opening := ofTraffic histogram reporter (Traffic.beforeStream traffic)
    let stream := Traffic.sinceStream traffic
    let judged := opening.judgements stream
    let state := (ofTraffic histogram reporter traffic).listener.roundTrip
    judged.map Judgement.echo = stream.filterMap Traffic.echo? ∧
      state.counts.received = UInt64.ofNat (judged.countP Judgement.accepted) ∧
      state.counts.retransmitted = UInt64.ofNat (judged.countP Judgement.recovered) ∧
      state.counts.ignored =
        UInt64.ofNat (stream.countP Traffic.isMessage) - state.counts.received ∧
      state.counts.lost = UInt64.ofNat (stream.countP Traffic.isLoss) ∧
      (Judgement.samples judged).length + judged.countP Judgement.backwards =
        judged.countP Judgement.timed ∧
      state.counts.rejected = UInt64.ofNat (judged.countP Judgement.backwards) ∧
      state.histogram = (Judgement.samples judged).foldl Histogram.record
        opening.listener.roundTrip.histogram ∧
      (forall payload receivedAt source retransmit, payload.length < 20 ->
        (state.deliver (.data payload receivedAt source retransmit)).state = state) ∧
      forall payload receivedAt source retransmit header,
        Header.decode payload = .ok header ->
          (state.judge ⟨header, receivedAt, retransmit⟩).accepted = false ->
            (state.deliver (.data payload receivedAt source retransmit)).state =
              { state with counts := state.counts.addIgnored } := by
  intro opening stream judged state
  have faultless : (ofTraffic histogram reporter traffic).faults = [] :=
    undisturbed.elim (fun few => (balanced_ofTraffic histogram reporter traffic few).faultless) id
  have split : ofTraffic histogram reporter traffic = stream.foldl step opening := by
    change _ = List.foldl step (List.foldl step _ _) _
    rw [← List.foldl_append, Traffic.beforeStream_append_sinceStream]
    rfl
  have tallied : state.Tallied opening.listener.roundTrip.histogram judged
      (stream.countP Traffic.isLoss) := by
    rw [split] at faultless
    have tallied := tallied_foldl (counts_beforeStream histogram reporter traffic)
      (fun item => Traffic.not_beginsStream_of_mem) faultless
    rwa [← split] at tallied
  refine ⟨map_echo_judgements opening stream, tallied.received, tallied.retransmitted, ?_,
    tallied.lost, Judgement.length_samples_add_backwards judged, tallied.rejected,
    tallied.histogram, ?_, ?_⟩
  · rw [← length_judgements opening stream, ← tallied.all]
    rw [UInt64.add_comm, UInt64.add_sub_cancel]
  · intro payload receivedAt source retransmit short
    exact RoundTrip.deliver_short short
  · intro payload receivedAt source retransmit header decoded known
    exact RoundTrip.deliver_not_accepted decoded known

/-- The second stream brings one echo that is recorded, one that runs backwards, one that
the first stream had brought already, one that was never sent, a loss and a short payload. -/
theorem counts_since_second_stream :
    let echo (number sentAt receivedAt : UInt64) (retransmit : Bool) : Traffic :=
      .delivered (.data (Header.atFront ⟨number, sentAt, 1⟩ (List.replicate 24 0)) receivedAt
        none retransmit)
    let begins : Traffic := .delivered (.beginOfStream none)
    let first := [begins, .sent, .sent, .sent, echo 0 5 8 false]
    let second := [echo 1 5 9 true, echo 0 5 9 false, echo 2 7 6 false, echo 3 5 9 false,
      .delivered .loss, .delivered (.data [1, 2, 3] 9 none false)]
    let account := ofTraffic default ⟨none, ⟨fun _ _ => true, []⟩, .willing, #[]⟩
      (first ++ begins :: second)
    (first ++ begins :: second).countP Traffic.isSent < 2 ^ 63 ∧
      (Traffic.sinceStream (first ++ begins :: second)).filterMap Traffic.echo? =
        second.filterMap Traffic.echo? ∧
      account.listener.roundTrip.counts = ⟨2, 1, 1, 1, 2⟩ ∧
      account.listener.roundTrip.counts.lost = UInt64.ofNat
        ((Traffic.sinceStream (first ++ begins :: second)).countP Traffic.isLoss) := by
  intro echo begins first second account
  have few : (first ++ begins :: second).countP Traffic.isSent < 2 ^ 63 := by decide
  obtain ⟨_, _, _, _, lost, _⟩ :=
    counts_since_stream_began default ⟨none, ⟨fun _ _ => true, []⟩, .willing, #[]⟩
      (first ++ begins :: second) (.inl few)
  refine ⟨few, ?_, ?_, lost⟩
  · rfl
  · decide +kernel

end Account
end LatencyMeter

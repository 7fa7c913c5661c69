import LatencyMeter.Proofs.RoundTrip.StreamCounts

/-!
# Echoes in another order

Messages overtake each other on their way, and some come more than once. As long as their
numbers are within reach of each other, the echo window knows every one of them, however far its
newest number has moved on: the first message with a number is fresh and every other one is a
duplicate. `Judgement.inOrder` says so without a window.

Recording two samples, and so counting two messages, is the same in either order. What a
measurement finds therefore depends on which messages came, and not on when.
-/

namespace LatencyMeter

/-! ## Two samples -/

namespace Histogram

/-- Two words raise a level in either order. -/
theorem raise_comm (level first second : UInt64) :
    (if (if level < first then first else level) < second then second
      else if level < first then first else level) =
      if (if level < second then second else level) < first then first
      else if level < second then second else level := by
  rw [← UInt64.toNat_inj]
  simp only [apply_ite UInt64.toNat, UInt64.lt_iff_toNat_lt]
  split_ifs <;> omega

/-- Two words lower a level in either order. -/
theorem lower_comm (level first second : UInt64) :
    (if second < (if first < level then first else level) then second
      else if first < level then first else level) =
      if first < (if second < level then second else level) then first
      else if second < level then second else level := by
  rw [← UInt64.toNat_inj]
  simp only [apply_ite UInt64.toNat, UInt64.lt_iff_toNat_lt]
  split_ifs <;> omega

/-- Two buckets, or the same one twice, are raised in either order. -/
theorem modify_comm (buckets : Array UInt64) (first second : Nat) :
    (buckets.modify first (· + 1)).modify second (· + 1) =
      (buckets.modify second (· + 1)).modify first (· + 1) := by
  apply Array.ext
  · simp
  · intro index _ _
    simp only [Array.getElem_modify]
    split_ifs <;> rfl

/-- Recording a sample raises the counter of its bucket, if there is one. -/
theorem record_eq (histogram : Histogram) (sample : UInt64) :
    histogram.record sample =
      { width := histogram.width
        buckets := histogram.buckets.modify (sample / histogram.width).toNat (· + 1)
        overflows := histogram.overflows +
          if (sample / histogram.width).toNat < histogram.buckets.size then 0 else 1
        count := histogram.count + 1
        sum := histogram.sum + sample
        greatest := if histogram.greatest < sample then sample else histogram.greatest
        least := if sample < histogram.least then sample else histogram.least } := by
  unfold record tally
  dsimp only
  split
  · rw [UInt64.add_zero]
  · next outside =>
    have kept : histogram.buckets.modify (sample / histogram.width).toNat (· + 1) =
        histogram.buckets := by
      unfold Array.modify Array.modifyM
      rw [dif_neg outside]
      rfl
    rw [kept]

theorem add_right_comm (word first second : UInt64) :
    word + first + second = word + second + first := by
  rw [UInt64.add_assoc, UInt64.add_comm first, UInt64.add_assoc]

/-- Two samples are recorded in either order. -/
theorem record_comm (histogram : Histogram) (first second : UInt64) :
    (histogram.record first).record second = (histogram.record second).record first := by
  simp only [record_eq, Array.size_modify, mk.injEq, true_and]
  exact ⟨modify_comm _ _ _, add_right_comm _ _ _, add_right_comm _ _ _, lower_comm _ _ _,
    raise_comm _ _ _⟩

end Histogram

/-! ## Messages and their numbers -/

/-- The messages with a header among some events. -/
def StreamEvent.echoes (events : List StreamEvent) : List Echo :=
  (events.map Traffic.delivered).filterMap Traffic.echo?

theorem StreamEvent.length_echoes
    {events : List StreamEvent}
    (messages : forall event, event ∈ events -> (Traffic.delivered event).isMessage = true) :
    (echoes events).length = events.length := by
  rw [echoes, List.length_filterMap_eq_countP, List.countP_map, List.countP_eq_length]
  intro event member
  rw [Function.comp_apply, Traffic.isSome_echo?]
  exact messages event member

/-- The numbers of the messages among some events. -/
def StreamEvent.numbers (events : List StreamEvent) : List UInt64 :=
  (echoes events).map fun echo => echo.header.number

/-- Some events and, behind the first message with a number, any messages with that number
again: how many of them were put in. -/
inductive StreamEvent.Repeats (events : List StreamEvent) : Nat -> List StreamEvent -> Prop
  | none : Repeats events 0 events
  | again
      {count : Nat}
      {front back : List StreamEvent}
      {event : StreamEvent}
      {echo : Echo}
      (repeats : Repeats events count (front ++ back))
      (carries : (Traffic.delivered event).echo? = some echo)
      (seen : echo.header.number ∈ numbers front) :
      Repeats events (count + 1) (front ++ event :: back)

/-! ## Verdicts within reach -/

/-- Numbers that were sent and are within reach of each other. -/
structure WithinReach (numbers : List UInt64) (total : UInt64) (first : Nat) : Prop where
  sent : forall number, number ∈ numbers -> number < total
  near : forall number, number ∈ numbers ->
    first ≤ number.toNat ∧ number.toNat < first + EchoWindow.span

theorem WithinReach.subset
    {numbers others : List UInt64}
    {total : UInt64}
    {first : Nat}
    (reach : WithinReach numbers total first)
    (included : others ⊆ numbers) :
    WithinReach others total first where
  sent := fun number member => reach.sent number (included member)
  near := fun number member => reach.near number (included member)

/-- No number is stale when all are within reach. -/
theorem EchoHistory.verdict_of_withinReach
    {history : EchoHistory}
    {number total : UInt64}
    {first : Nat}
    (reach : WithinReach (number :: history) total first) :
    history.verdict number total = if number ∈ history then .duplicate else .fresh := by
  have sent := reach.sent number List.mem_cons_self
  have notOutrun : history.outruns number = false := by
    unfold outruns
    cases greatest : history.max? with
    | none => rfl
    | some newest =>
        have member := (List.max?_eq_some_iff.mp greatest).1
        have newestNear := reach.near newest (List.mem_cons_of_mem _ member)
        have numberNear := reach.near number List.mem_cons_self
        unfold EchoWindow.span at newestNear numberNear
        simp only [Bool.and_eq_false_iff, decide_eq_false_iff_not]
        omega
  rw [verdict, if_neg (UInt64.not_le.mpr sent), notOutrun, if_neg Bool.false_ne_true]

/-- Judge messages in order: the first one with a number is fresh, and every other one is a
duplicate. -/
def Judgement.inOrder : EchoHistory -> List Echo -> List Judgement
  | _, [] => []
  | seen, echo :: rest =>
      ⟨echo, if echo.header.number ∈ seen then .duplicate else .fresh⟩ ::
        inOrder (seen.insert echo.header.number) rest

/-- An event confirms a number if it carries a message that is judged to be fresh. -/
theorem RoundTrip.accepted?_eq_bind (state : RoundTrip) (event : StreamEvent) :
    state.accepted? event =
      (Traffic.delivered event).echo?.bind fun echo =>
        if (state.judge echo).accepted then some echo.header.number else none := by
  cases event with
  | data payload receivedAt source retransmit =>
      rw [accepted?, Traffic.echo?]
      cases Header.decode payload with
      | error fault => rfl
      | ok header =>
          by_cases fresh : (state.echoes.check header.number state.flight.total).1 = .fresh <;>
            simp [judge, Judgement.accepted, fresh]
  | beginOfStream source => rfl
  | loss => rfl
  | endOfStream source => rfl

/-- The verdict of a measurement on a message within reach, and what its window has seen
afterwards. -/
theorem RoundTrip.deliver_withinReach
    {state : RoundTrip}
    {seen : EchoHistory}
    (represents : state.echoes.Represents seen)
    {event : StreamEvent}
    {echo : Echo}
    (carries : (Traffic.delivered event).echo? = some echo)
    {first : Nat}
    (reach : WithinReach (echo.header.number :: seen) state.flight.total first) :
    state.judge echo =
        ⟨echo, if echo.header.number ∈ seen then .duplicate else .fresh⟩ ∧
      (state.deliver event).state.echoes.Represents (seen.insert echo.header.number) ∧
      (state.deliver event).state.flight.total = state.flight.total := by
  have judged : (state.echoes.check echo.header.number state.flight.total).1 =
      if echo.header.number ∈ seen then .duplicate else .fresh :=
    (represents.check_eq_verdict _ _).trans (EchoHistory.verdict_of_withinReach reach)
  have judgement : state.judge echo =
      ⟨echo, if echo.header.number ∈ seen then .duplicate else .fresh⟩ := by
    rw [judge, judged]
  have accepts := state.accepted?_eq_bind event
  rw [carries, Option.bind_some, judgement] at accepts
  refine ⟨judgement, ?_⟩
  by_cases known : echo.header.number ∈ seen
  · rw [if_pos known] at accepts
    obtain ⟨flight, echoes, _⟩ := deliver_of_not_accepted accepts
    rw [List.insert_of_mem known, flight, echoes]
    exact ⟨represents, rfl⟩
  · rw [if_neg known] at accepts
    obtain ⟨fresh, flight, echoes, _⟩ := deliver_of_accepted accepts
    rw [List.insert_of_not_mem known, flight, echoes]
    exact ⟨represents.check_fresh fresh, Flight.total_lower _⟩

namespace Account

/-- Messages within reach of each other are judged as if there were no window. -/
theorem judgements_of_withinReach
    {account : Account}
    {seen : EchoHistory}
    (represents : account.listener.roundTrip.echoes.Represents seen)
    {events : List StreamEvent}
    (messages : forall event, event ∈ events -> (Traffic.delivered event).isMessage = true)
    {first : Nat}
    (reach : WithinReach (seen ++ StreamEvent.numbers events) account.flight.total first) :
    account.judgements (events.map .delivered) =
      Judgement.inOrder seen (StreamEvent.echoes events) := by
  induction events generalizing account seen with
  | nil => rfl
  | cons event rest hypothesis =>
      obtain ⟨isMessage, messages⟩ := List.forall_mem_cons.mp messages
      rw [← Traffic.isSome_echo?] at isMessage
      obtain ⟨echo, carries⟩ := Option.isSome_iff_exists.mp isMessage
      have echoes : StreamEvent.echoes (event :: rest) = echo :: StreamEvent.echoes rest := by
        simp [StreamEvent.echoes, carries]
      have numbers : StreamEvent.numbers (event :: rest) =
          echo.header.number :: StreamEvent.numbers rest := by
        simp [StreamEvent.numbers, echoes]
      rw [numbers] at reach
      obtain ⟨judged, representsNext, total⟩ := RoundTrip.deliver_withinReach represents carries
        (reach.subset (by simp [List.subset_append_of_subset_left]))
      have reachNext : WithinReach
          (seen.insert echo.header.number ++ StreamEvent.numbers rest)
          (account.step (.delivered event)).flight.total first := by
        rw [flight, roundTrip_step_delivered, total]
        exact reach.subset (by grind)
      have later := hypothesis representsNext messages reachNext
      rw [echoes, List.map_cons, judgements, judging?, carries, Option.map_some, judged, later]
      rfl

end Account

/-! ## Judging in order -/

namespace Judgement

/-- The numbers seen after some messages. -/
def seenAfter (seen : EchoHistory) (echoes : List Echo) : EchoHistory :=
  echoes.foldl (fun seen echo => seen.insert echo.header.number) seen

theorem mem_seenAfter
    {seen : EchoHistory}
    {echoes : List Echo}
    {number : UInt64} :
    number ∈ seenAfter seen echoes ↔
      number ∈ seen ∨ number ∈ echoes.map fun echo => echo.header.number := by
  induction echoes generalizing seen with
  | nil => simp [seenAfter]
  | cons echo rest hypothesis =>
      have next : seenAfter seen (echo :: rest) =
          seenAfter (seen.insert echo.header.number) rest := rfl
      rw [next, hypothesis, List.mem_insert_iff, List.map_cons, List.mem_cons, or_assoc,
        or_left_comm]

theorem inOrder_append (seen : EchoHistory) (front back : List Echo) :
    inOrder seen (front ++ back) = inOrder seen front ++ inOrder (seenAfter seen front) back := by
  induction front generalizing seen with
  | nil => rfl
  | cons echo rest hypothesis =>
      rw [List.cons_append, inOrder, inOrder, List.cons_append, hypothesis]
      rfl

/-- Messages with numbers of their own are all fresh. -/
theorem inOrder_of_nodup
    {seen : EchoHistory}
    {echoes : List Echo}
    (distinct : (echoes.map fun echo => echo.header.number).Nodup)
    (unseen : forall echo, echo ∈ echoes -> echo.header.number ∉ seen) :
    inOrder seen echoes = echoes.map fun echo => ⟨echo, .fresh⟩ := by
  induction echoes generalizing seen with
  | nil => rfl
  | cons echo rest hypothesis =>
      rw [List.map_cons, List.nodup_cons] at distinct
      obtain ⟨unseenFirst, unseen⟩ := List.forall_mem_cons.mp unseen
      have unseenLater (later : Echo) (member : later ∈ rest) :
          later.header.number ∉ seen.insert echo.header.number := by
        rw [List.mem_insert_iff]
        rintro (same | before)
        · exact distinct.1 (List.mem_map.mpr ⟨later, member, same⟩)
        · exact unseen later member before
      rw [inOrder, if_neg unseenFirst, hypothesis distinct.2 unseenLater, List.map_cons]

end Judgement

namespace StreamEvent
namespace Repeats

variable {events longer : List StreamEvent} {count : Nat}

theorem echoes_insert
    {event : StreamEvent}
    {echo : Echo}
    (carries : (Traffic.delivered event).echo? = some echo)
    (front back : List StreamEvent) :
    echoes (front ++ event :: back) = echoes front ++ echo :: echoes back := by
  simp [echoes, carries]

/-- What is put in is judged to be a duplicate, and all other messages are judged as before. -/
theorem exists_judged (repeats : Repeats events count longer) :
    exists again : List Judgement,
      again.length = count ∧
        (forall judgement, judgement ∈ again -> judgement.accepted = false) ∧
        (Judgement.inOrder [] (echoes longer)).Perm
          (again ++ Judgement.inOrder [] (echoes events)) := by
  induction repeats with
  | none => exact ⟨[], rfl, by simp, .refl _⟩
  | again repeats carries seen hypothesis =>
      next front back event echo =>
      obtain ⟨again, counted, known, same⟩ := hypothesis
      have seenBefore : echo.header.number ∈ Judgement.seenAfter [] (echoes front) :=
        Judgement.mem_seenAfter.mpr (.inr seen)
      refine ⟨⟨echo, .duplicate⟩ :: again, by simp [counted],
        List.forall_mem_cons.mpr ⟨rfl, known⟩, ?_⟩
      have split : echoes (front ++ back) = echoes front ++ echoes back := by simp [echoes]
      rw [split, Judgement.inOrder_append] at same
      rw [echoes_insert carries, Judgement.inOrder_append, Judgement.inOrder,
        if_pos seenBefore, List.insert_of_mem seenBefore]
      exact List.perm_middle.trans (same.cons _)

/-- No other numbers are put in. -/
theorem numbers_subset (repeats : Repeats events count longer) :
    numbers longer ⊆ numbers events := by
  induction repeats with
  | none => exact List.Subset.refl _
  | again repeats carries seen hypothesis =>
      next front back event echo =>
      refine List.Subset.trans ?_ hypothesis
      rw [numbers, echoes_insert carries]
      intro number member
      have split : numbers (front ++ back) = numbers front ++ numbers back := by
        simp [numbers, echoes]
      rw [split]
      simp only [List.map_append, List.map_cons, List.mem_append, List.mem_cons] at member
      rcases member with before | rfl | behind
      · exact List.mem_append_left _ before
      · exact List.mem_append_left _ seen
      · exact List.mem_append_right _ behind

theorem isMessage
    (repeats : Repeats events count longer)
    (messages : forall event, event ∈ events -> (Traffic.delivered event).isMessage = true) :
    forall event, event ∈ longer -> (Traffic.delivered event).isMessage = true := by
  induction repeats with
  | none => exact messages
  | again repeats carries seen hypothesis =>
      intro event member
      rcases List.mem_append.mp member with before | behind
      · exact hypothesis event (List.mem_append_left _ before)
      rcases List.mem_cons.mp behind with rfl | behind
      · rw [← Traffic.isSome_echo?, carries]
        rfl
      · exact hypothesis event (List.mem_append_right _ behind)

end Repeats
end StreamEvent

/-! ## What is found -/

/-- What a measurement has found: its samples, its counts and how many messages are
unconfirmed. -/
structure RoundTrip.Findings where
  histogram : Histogram
  counts : ReceiveCounts
  outstanding : Int64
  deriving DecidableEq

namespace RoundTrip

/-- The findings of a measurement. -/
def findings (state : RoundTrip) : Findings :=
  ⟨state.histogram, state.counts, state.flight.outstanding⟩

namespace Findings

/-- The findings on some messages, once a number of messages has been sent. -/
def ofJudged (histogram : Histogram) (sends : Nat) (judged : List Judgement) : Findings where
  histogram := (Judgement.samples judged).foldl Histogram.record histogram
  counts :=
    { received := UInt64.ofNat (judged.countP Judgement.accepted)
      retransmitted := UInt64.ofNat (judged.countP Judgement.recovered)
      lost := 0
      rejected := UInt64.ofNat (judged.countP Judgement.backwards)
      ignored := UInt64.ofNat (judged.countP fun judgement => !judgement.accepted) }
  outstanding := Int64.ofInt (sends - judged.countP Judgement.accepted)

/-- The findings with more messages ignored. -/
def addIgnored (found : Findings) (count : Nat) : Findings :=
  { found with
    counts := { found.counts with ignored := found.counts.ignored + UInt64.ofNat count } }

variable (histogram : Histogram) (sends : Nat)

/-- It does not matter in which order messages were judged. -/
theorem ofJudged_eq_of_perm
    {left right : List Judgement}
    (same : left.Perm right) :
    ofJudged histogram sends left = ofJudged histogram sends right := by
  have samples : (Judgement.samples left).foldl Histogram.record histogram =
      (Judgement.samples right).foldl Histogram.record histogram :=
    (same.filterMap Judgement.sample?).foldl_eq'
      (fun first _ second _ histogram => histogram.record_comm first second) histogram
  unfold ofJudged
  rw [samples]
  simp only [same.countP_eq]

/-- Messages that are not accepted are counted as ignored and leave everything else alone. -/
theorem ofJudged_append
    {again : List Judgement}
    (known : forall judgement, judgement ∈ again -> judgement.accepted = false)
    (judged : List Judgement) :
    ofJudged histogram sends (again ++ judged) =
      (ofJudged histogram sends judged).addIgnored again.length := by
  have untimed (judgement : Judgement) (member : judgement ∈ again) :
      judgement.timed = false := by
    rw [Judgement.timed, known judgement member, Bool.false_and]
  have noSample : Judgement.samples again = [] := by
    refine List.filterMap_eq_nil_iff.mpr fun judgement member => ?_
    rw [Judgement.sample?, untimed judgement member]
    rfl
  have noneAccepted : again.countP Judgement.accepted = 0 :=
    List.countP_eq_zero.mpr fun judgement member => by simp [known judgement member]
  have noneRecovered : again.countP Judgement.recovered = 0 :=
    List.countP_eq_zero.mpr fun judgement member => by
      simp [Judgement.recovered, known judgement member]
  have noneBackwards : again.countP Judgement.backwards = 0 :=
    List.countP_eq_zero.mpr fun judgement member => by
      simp [Judgement.backwards, untimed judgement member]
  have allIgnored : again.countP (fun judgement => !judgement.accepted) = again.length :=
    List.countP_eq_length.mpr fun judgement member => by simp [known judgement member]
  have split : Judgement.samples (again ++ judged) = Judgement.samples judged := by
    rw [Judgement.samples, List.filterMap_append]
    change Judgement.samples again ++ Judgement.samples judged = _
    rw [noSample, List.nil_append]
  unfold addIgnored ofJudged
  rw [split]
  simp only [List.countP_append, noneAccepted, noneRecovered, noneBackwards, allIgnored,
    Nat.zero_add, Nat.add_comm again.length, UInt64.ofNat_add]

end Findings

/-- What is tallied and what is unconfirmed make up what is found. -/
theorem findings_of_tallied
    {state : RoundTrip}
    {histogram : Histogram}
    {judged : List Judgement}
    (tallied : state.Tallied histogram judged 0)
    {sends : Nat}
    (unconfirmed : state.flight.outstanding.toInt = sends - judged.countP Judgement.accepted) :
    state.findings = .ofJudged histogram sends judged := by
  have either : judged.length = judged.countP Judgement.accepted +
      judged.countP fun judgement => !judgement.accepted := by
    rw [List.length_eq_countP_add_countP Judgement.accepted]
    simp
  have ignored : state.counts.ignored =
      UInt64.ofNat (judged.countP fun judgement => !judgement.accepted) := by
    have all := tallied.all
    rw [either, UInt64.ofNat_add, tallied.received] at all
    exact (UInt64.add_right_inj _).mp all
  have counts : state.counts = (Findings.ofJudged histogram sends judged).counts := by
    cases counts : state.counts
    have received := tallied.received
    have retransmitted := tallied.retransmitted
    have lost := tallied.lost
    have rejected := tallied.rejected
    rw [counts] at received retransmitted lost rejected ignored
    exact ReceiveCounts.mk.injEq .. ▸ ⟨received, retransmitted, lost, rejected, ignored⟩
  rw [findings, counts, tallied.histogram, ← state.flight.outstanding.ofInt_toInt, unconfirmed]
  rfl

end RoundTrip

namespace Account

/-- What the measurement has found. -/
def findings (account : Account) : RoundTrip.Findings := account.listener.roundTrip.findings

/-- A new measurement that has sent a number of messages and then hears some events. -/
def echoed (histogram : Histogram) (reporter : Reporter) (sends : Nat)
    (events : List StreamEvent) : Account :=
  ofTraffic histogram reporter (List.replicate sends .sent ++ events.map .delivered)

/-- Sending changes the flight counters and nothing else, and accepts nothing. -/
theorem echoed_nil (histogram : Histogram) (reporter : Reporter) (sends : Nat) :
    (exists flight,
      (echoed histogram reporter sends []).listener.roundTrip =
        { RoundTrip.start histogram with flight := flight }) ∧
      (echoed histogram reporter sends []).acceptances = [] := by
  unfold echoed
  rw [List.map_nil, List.append_nil]
  induction sends with
  | zero => exact ⟨⟨Flight.empty, rfl⟩, rfl⟩
  | succ sends hypothesis =>
      obtain ⟨⟨flight, same⟩, none⟩ := hypothesis
      rw [List.replicate_succ', ofTraffic_append_singleton, roundTrip_step_sent,
        acceptances_step_sent, same]
      exact ⟨⟨flight.sent, rfl⟩, none⟩

theorem echoed_eq_foldl
    (histogram : Histogram)
    (reporter : Reporter)
    (sends : Nat)
    (events : List StreamEvent) :
    echoed histogram reporter sends events =
      (events.map .delivered).foldl step (echoed histogram reporter sends []) := by
  unfold echoed ofTraffic
  rw [List.map_nil, List.append_nil, List.foldl_append]

/-- As many numbers are accepted as messages are. -/
theorem length_acceptances_foldl (account : Account) (traffic : List Traffic) :
    (traffic.foldl step account).acceptances.length =
      account.acceptances.length + (account.judgements traffic).countP Judgement.accepted := by
  induction traffic generalizing account with
  | nil => rfl
  | cons item rest hypothesis =>
      have one : (account.step item).acceptances.length = account.acceptances.length +
          (account.judging? item).toList.countP Judgement.accepted := by
        cases item with
        | sent => rfl
        | delivered event =>
            rw [acceptances_step_delivered, judging?, RoundTrip.accepted?_eq_bind]
            cases (Traffic.delivered event).echo? with
            | none => rfl
            | some echo =>
                rw [Option.bind_some]
                cases accepted : (account.listener.roundTrip.judge echo).accepted <;>
                  simp [accepted]
      rw [List.foldl_cons, hypothesis, one, judgements, List.countP_append, Nat.add_assoc]

section Echoed

variable (histogram : Histogram) (reporter : Reporter) {sends first : Nat}
  {events : List StreamEvent}

theorem countP_isSent_echoed (sends : Nat) (events : List StreamEvent) :
    (List.replicate sends Traffic.sent ++ events.map Traffic.delivered).countP Traffic.isSent =
      sends := by
  have noneSent : (events.map Traffic.delivered).countP Traffic.isSent = 0 := by
    rw [List.countP_map]
    exact List.countP_eq_zero.mpr fun event _ => Bool.false_ne_true
  rw [List.countP_append, noneSent, List.countP_replicate]
  rfl

/-- A measurement that has heard some events keeps its account in balance. -/
theorem balanced_echoed
    (few : sends < 2 ^ 63)
    (events : List StreamEvent) :
    (echoed histogram reporter sends events).Balanced sends := by
  have balanced := balanced_ofTraffic histogram reporter
    (List.replicate sends .sent ++ events.map .delivered)
  rw [countP_isSent_echoed] at balanced
  exact balanced few

/-- Messages within reach of each other are judged in order, and what a measurement finds is
what was judged. -/
theorem findings_echoed
    (few : sends < 2 ^ 63)
    (messages : forall event, event ∈ events -> (Traffic.delivered event).isMessage = true)
    (reach : WithinReach (StreamEvent.numbers events) (UInt64.ofNat sends) first) :
    let judged := Judgement.inOrder [] (StreamEvent.echoes events)
    (echoed histogram reporter sends []).judgements (events.map .delivered) = judged ∧
      (echoed histogram reporter sends events).findings =
        .ofJudged histogram sends judged := by
  intro judged
  obtain ⟨⟨flight, opening⟩, noneAccepted⟩ := echoed_nil histogram reporter sends
  have total : (echoed histogram reporter sends []).flight.total = UInt64.ofNat sends := by
    have sent := (balanced_echoed histogram reporter few []).total
    exact UInt64.ofNat_toNat.symm.trans (congrArg UInt64.ofNat sent)
  have represents : (echoed histogram reporter sends []).listener.roundTrip.echoes.Represents
      [] := by
    rw [opening]
    exact EchoWindow.represents_empty
  have judgements : (echoed histogram reporter sends []).judgements (events.map .delivered) =
      judged := by
    rw [← total] at reach
    exact judgements_of_withinReach represents messages reach
  have balanced := balanced_echoed histogram reporter few events
  have counted : (echoed histogram reporter sends events).acceptances.length =
      judged.countP Judgement.accepted := by
    rw [echoed_eq_foldl, length_acceptances_foldl, noneAccepted, judgements, List.length_nil,
      Nat.zero_add]
  have unconfirmed := balanced.outstanding
  rw [counted] at unconfirmed
  have noneLost : (events.map Traffic.delivered).countP Traffic.isLoss = 0 := by
    rw [List.countP_map, List.countP_eq_zero]
    intro event member
    have isMessage := messages event member
    cases event <;> simp_all [Traffic.isMessage, Traffic.isLoss]
  have undivided (item : Traffic) (member : item ∈ events.map Traffic.delivered) :
      item.beginsStream = false := by
    obtain ⟨event, present, rfl⟩ := List.mem_map.mp member
    have isMessage := messages event present
    cases event <;> simp_all [Traffic.isMessage, Traffic.beginsStream]
  have faultless := balanced.faultless
  rw [echoed_eq_foldl] at faultless
  have tallied := tallied_foldl (by rw [opening]; rfl) undivided faultless
  rw [← echoed_eq_foldl, judgements, noneLost, opening] at tallied
  exact ⟨judgements, RoundTrip.findings_of_tallied tallied unconfirmed⟩

/-- Messages that come again are ignored. -/
theorem findings_repeats
    (few : sends < 2 ^ 63)
    (messages : forall event, event ∈ events -> (Traffic.delivered event).isMessage = true)
    (reach : WithinReach (StreamEvent.numbers events) (UInt64.ofNat sends) first)
    {count : Nat}
    {longer : List StreamEvent}
    (repeats : StreamEvent.Repeats events count longer) :
    (echoed histogram reporter sends longer).findings =
      (echoed histogram reporter sends events).findings.addIgnored count := by
  obtain ⟨again, rfl, known, judged⟩ := repeats.exists_judged
  have found := (findings_echoed histogram reporter few messages reach).2
  have foundLonger := (findings_echoed histogram reporter few (repeats.isMessage messages)
    (reach.subset repeats.numbers_subset)).2
  rw [foundLonger, found, RoundTrip.Findings.ofJudged_eq_of_perm _ _ judged]
  exact RoundTrip.Findings.ofJudged_append _ _ known _

end Echoed

/-- A measurement has sent some messages and hears echoes of some of them, each number once,
all numbers within a window of each other. In whatever order they come, every one of them is
judged to be fresh and nothing goes wrong, and any two orders lead to the same histogram, the
same counts and the same number of unconfirmed messages. If messages come again behind the
first one with their number, they are counted as ignored and change nothing else. The bound on
the sent messages excludes an overflow of the counters and nothing else. -/
theorem findings_independent_of_order
    (histogram : Histogram)
    (reporter : Reporter)
    (sends first : Nat)
    (few : sends < 2 ^ 63)
    (events : List StreamEvent)
    (messages : forall event, event ∈ events -> (Traffic.delivered event).isMessage = true)
    (distinct : (StreamEvent.numbers events).Nodup)
    (sent : forall number, number ∈ StreamEvent.numbers events -> number.toNat < sends)
    (near : forall number, number ∈ StreamEvent.numbers events ->
      first ≤ number.toNat ∧ number.toNat < first + 4096) :
    (forall order, order.Perm events ->
      (echoed histogram reporter sends order).faults = [] ∧
        (StreamEvent.echoes order).length = order.length ∧
        (echoed histogram reporter sends []).judgements (order.map .delivered) =
          (StreamEvent.echoes order).map fun echo => ⟨echo, .fresh⟩) ∧
      (forall left right, left.Perm events -> right.Perm events ->
        (echoed histogram reporter sends left).findings =
          (echoed histogram reporter sends right).findings) ∧
      forall order, order.Perm events ->
        forall count longer, StreamEvent.Repeats order count longer ->
          (echoed histogram reporter sends longer).faults = [] ∧
            (echoed histogram reporter sends longer).findings =
              (echoed histogram reporter sends order).findings.addIgnored count := by
  have reach : WithinReach (StreamEvent.numbers events) (UInt64.ofNat sends) first := by
    refine ⟨fun number member => ?_, near⟩
    rw [UInt64.lt_iff_toNat_lt, UInt64.toNat_ofNat_of_lt' (few.trans (by decide))]
    exact sent number member
  have faultless (order : List StreamEvent) :=
    (balanced_echoed histogram reporter few order).faultless
  have messagesOf {order : List StreamEvent} (same : order.Perm events) :
      forall event, event ∈ order -> (Traffic.delivered event).isMessage = true :=
    fun event member => messages event (same.mem_iff.mp member)
  have echoesOf {order : List StreamEvent} (same : order.Perm events) :
      (StreamEvent.echoes order).Perm (StreamEvent.echoes events) :=
    (same.map _).filterMap _
  have reachOf {order : List StreamEvent} (same : order.Perm events) :
      WithinReach (StreamEvent.numbers order) (UInt64.ofNat sends) first :=
    reach.subset ((echoesOf same).map _).subset
  have fresh {order : List StreamEvent} (same : order.Perm events) :
      Judgement.inOrder [] (StreamEvent.echoes order) =
        (StreamEvent.echoes order).map fun echo => ⟨echo, .fresh⟩ :=
    Judgement.inOrder_of_nodup (((echoesOf same).map _).nodup_iff.mpr distinct) (by simp)
  have found {order : List StreamEvent} (same : order.Perm events) :=
    findings_echoed histogram reporter few (messagesOf same) (reachOf same)
  refine ⟨fun order same => ⟨faultless order, ?_, (found same).1.trans (fresh same)⟩,
    fun left right sameLeft sameRight => ?_,
    fun order same count longer repeats =>
      ⟨faultless longer,
        findings_repeats histogram reporter few (messagesOf same) (reachOf same) repeats⟩⟩
  · exact StreamEvent.length_echoes (messagesOf same)
  · have judged := ((echoesOf sameLeft).trans (echoesOf sameRight).symm).map
      fun echo => (⟨echo, .fresh⟩ : Judgement)
    rw [(found sameLeft).2, (found sameRight).2, fresh sameLeft, fresh sameRight]
    exact RoundTrip.Findings.ofJudged_eq_of_perm histogram sends judged

/-- The oldest and the newest number of a window come in either order, and then the oldest one
comes twice more, once with another send time. -/
theorem findings_at_both_ends_of_window :
    let echo (number sentAt : UInt64) : StreamEvent :=
      .data (Header.atFront ⟨number, sentAt, 1⟩ (List.replicate 20 0)) 9 none false
    let events := [echo 2 5, echo 4097 7]
    let longer := [echo 4097 7, echo 2 5, echo 2 1, echo 2 5]
    let after := echoed default ⟨none, ⟨fun _ _ => true, []⟩, .willing, #[]⟩ 4098
    4098 < 2 ^ 63 ∧
      (forall event, event ∈ events -> (Traffic.delivered event).isMessage = true) ∧
      (StreamEvent.numbers events).Nodup ∧
      (forall number, number ∈ StreamEvent.numbers events -> number.toNat < 4098) ∧
      (forall number, number ∈ StreamEvent.numbers events ->
        2 ≤ number.toNat ∧ number.toNat < 2 + 4096) ∧
      (after events).faults = [] ∧
      (after events).findings = (after events.reverse).findings ∧
      StreamEvent.Repeats events.reverse 2 longer ∧
      (after longer).findings = (after events.reverse).findings.addIgnored 2 := by
  intro echo events longer after
  have messages : forall event, event ∈ events -> (Traffic.delivered event).isMessage = true := by
    decide
  have ends : StreamEvent.numbers events = [2, 4097] := by decide +kernel
  have distinct : (StreamEvent.numbers events).Nodup := by decide +kernel
  have sent : forall number, number ∈ StreamEvent.numbers events -> number.toNat < 4098 := by
    rw [ends]
    simp
  have near : forall number, number ∈ StreamEvent.numbers events ->
      2 ≤ number.toNat ∧ number.toNat < 2 + 4096 := by
    rw [ends]
    simp
  have once : StreamEvent.Repeats events.reverse 1 ([echo 4097 7, echo 2 5] ++ [echo 2 5]) :=
    .again .none rfl (by decide +kernel)
  have twice : StreamEvent.Repeats events.reverse 2
      ([echo 4097 7, echo 2 5] ++ echo 2 1 :: [echo 2 5]) :=
    .again once rfl (by decide +kernel)
  obtain ⟨each, equal, again⟩ :=
    findings_independent_of_order default ⟨none, ⟨fun _ _ => true, []⟩, .willing, #[]⟩ 4098 2
      (by decide) events messages distinct sent near
  exact ⟨by decide, messages, distinct, sent, near, (each events (.refl _)).1,
    equal events events.reverse (.refl _) (List.reverse_perm events), twice,
    (again events.reverse (List.reverse_perm events) 2 longer twice).2⟩

end Account
end LatencyMeter

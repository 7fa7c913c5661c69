import LatencyMeter.Proofs.RoundTrip.Delivery
import Mathlib.Data.List.Induction

/-!
# Flight accounting under arbitrary traffic

Messages are sent and events are delivered in any order, and the events carry any
bytes: echoes that are too short, forged, repeated or reordered. An account keeps what
an observer sees of this: which numbers were accepted and how many messages had been
sent by then, every value that the count of unconfirmed messages has had, and every
fault of the receive thread.

One invariant, `Account.Balanced`, ties the flight counters, the echo window and the
observed acceptances together. That no fault ever occurs is part of it: accepted numbers
are distinct and have all been sent, so there is an unconfirmed message for each.
-/

namespace LatencyMeter

/-- What can happen to a measurement: a message is about to be sent, or an event of the
stream is delivered. -/
inductive Traffic
  | sent
  | delivered (event : StreamEvent)

/-- Whether a message is about to be sent. -/
def Traffic.isSent : Traffic -> Bool
  | .sent => true
  | .delivered _ => false

/-- A number that was accepted, and how many messages had been sent by then. -/
structure Acceptance where
  number : UInt64
  total : UInt64

/-- A measurement and what an observer has seen of it, the latest first. -/
structure Account where
  listener : Listener
  acceptances : List Acceptance
  /-- The values that the count of unconfirmed messages has had. -/
  levels : List Int64
  faults : List Cause

namespace Account

/-- The flight counters of the measurement. -/
def flight (account : Account) : Flight :=
  account.listener.roundTrip.flight

/-- The numbers accepted so far. -/
def numbers (account : Account) : EchoHistory :=
  account.acceptances.map Acceptance.number

/-- Nothing has happened yet. -/
def start (histogram : Histogram) (reporter : Reporter) : Account where
  listener := ⟨RoundTrip.start histogram, reporter⟩
  acceptances := []
  levels := [Flight.empty.outstanding]
  faults := []

/-- Send a message or deliver an event, and see what it does. -/
def step (account : Account) : Traffic -> Account
  | .sent =>
      let roundTrip := account.listener.roundTrip.sent
      { account with
        listener := { account.listener with roundTrip := roundTrip }
        levels := roundTrip.flight.outstanding :: account.levels }
  | .delivered event =>
      let before := account.listener.roundTrip
      let (fault, listener) := account.listener.deliver event
      { listener := listener
        acceptances :=
          match before.accepted? event with
          | some number => ⟨number, before.flight.total⟩ :: account.acceptances
          | none => account.acceptances
        levels := listener.roundTrip.flight.outstanding :: account.levels
        faults := fault.toList ++ account.faults }

@[simp] theorem flight_step_sent (account : Account) :
    (account.step .sent).flight = account.flight.sent := rfl

@[simp] theorem acceptances_step_sent (account : Account) :
    (account.step .sent).acceptances = account.acceptances := rfl

theorem levels_step_sent (account : Account) :
    (account.step .sent).levels = account.flight.sent.outstanding :: account.levels := rfl

theorem echoes_step_delivered (account : Account) (event : StreamEvent) :
    (account.step (.delivered event)).listener.roundTrip.echoes =
      (account.listener.roundTrip.deliver event).state.echoes := rfl

theorem acceptances_step_delivered (account : Account) (event : StreamEvent) :
    (account.step (.delivered event)).acceptances =
      match account.listener.roundTrip.accepted? event with
      | some number => ⟨number, account.flight.total⟩ :: account.acceptances
      | none => account.acceptances := rfl

theorem levels_step_delivered (account : Account) (event : StreamEvent) :
    (account.step (.delivered event)).levels =
      (account.step (.delivered event)).flight.outstanding :: account.levels := rfl

theorem faults_step_delivered (account : Account) (event : StreamEvent) :
    (account.step (.delivered event)).faults =
      (account.listener.roundTrip.deliver event).fault.toList ++ account.faults := rfl

/-- The account of some traffic. -/
def ofTraffic (histogram : Histogram) (reporter : Reporter) (traffic : List Traffic) :
    Account :=
  traffic.foldl step (start histogram reporter)

theorem ofTraffic_append_singleton
    (histogram : Histogram)
    (reporter : Reporter)
    (earlier : List Traffic)
    (latest : Traffic) :
    ofTraffic histogram reporter (earlier ++ [latest]) =
      (ofTraffic histogram reporter earlier).step latest := by
  unfold ofTraffic
  rw [List.foldl_append]
  rfl

/-! ## The peak -/

/-- The peak is the largest value that the count of unconfirmed messages has had. -/
structure Peaked (account : Account) : Prop where
  current_mem : account.flight.outstanding ∈ account.levels
  peak_mem : account.flight.peak ∈ account.levels
  le_peak : forall level, level ∈ account.levels -> level ≤ account.flight.peak

theorem peaked_start (histogram : Histogram) (reporter : Reporter) :
    (start histogram reporter).Peaked where
  current_mem := List.mem_singleton_self _
  peak_mem := List.mem_singleton_self _
  le_peak := by
    intro level member
    obtain rfl := List.mem_singleton.mp member
    exact Int64.le_refl _

namespace Peaked

variable {account : Account}

theorem step_sent (peaked : account.Peaked) : (account.step .sent).Peaked where
  current_mem := List.mem_cons_self
  peak_mem := by
    rw [flight_step_sent, levels_step_sent, Flight.peak_sent]
    rcases account.flight.peak_raisePeak_eq_or account.flight.sent.outstanding with kept | raised
    · rw [kept]
      exact List.mem_cons_of_mem _ peaked.peak_mem
    · rw [raised]
      exact List.mem_cons_self
  le_peak := by
    rw [flight_step_sent, levels_step_sent, Flight.peak_sent]
    intro level member
    rcases List.mem_cons.mp member with rfl | earlier
    · exact account.flight.level_le_peak_raisePeak _
    · exact Int64.le_trans (peaked.le_peak level earlier)
        (account.flight.peak_le_peak_raisePeak _)

/-- An event does not raise the count, so the peak stays where it is. -/
theorem step_delivered
    (peaked : account.Peaked)
    {event : StreamEvent}
    (kept : (account.step (.delivered event)).flight.peak = account.flight.peak)
    (notRaised :
      (account.step (.delivered event)).flight.outstanding ≤ account.flight.outstanding) :
    (account.step (.delivered event)).Peaked where
  current_mem := List.mem_cons_self
  peak_mem := by
    rw [kept]
    exact List.mem_cons_of_mem _ peaked.peak_mem
  le_peak := by
    rw [kept, levels_step_delivered]
    intro level member
    rcases List.mem_cons.mp member with rfl | earlier
    · exact Int64.le_trans notRaised (peaked.le_peak _ peaked.current_mem)
    · exact peaked.le_peak level earlier

end Peaked

/-! ## The balance -/

/-- The counters agree with what was sent and accepted, the window with what was
accepted, and nothing has gone wrong. -/
structure Balanced (account : Account) (sent : Nat) : Prop where
  total : account.flight.total.toNat = sent
  outstanding : account.flight.outstanding.toInt = sent - account.acceptances.length
  represents : account.listener.roundTrip.echoes.Represents account.numbers
  nodup : account.numbers.Nodup
  below : forall acceptance, acceptance ∈ account.acceptances ->
    acceptance.number < acceptance.total ∧ acceptance.total ≤ account.flight.total
  peaked : account.Peaked
  faultless : account.faults = []

theorem balanced_start (histogram : Histogram) (reporter : Reporter) :
    (start histogram reporter).Balanced 0 where
  total := rfl
  outstanding := rfl
  represents := EchoWindow.represents_empty
  nodup := List.nodup_nil
  below := by
    intro acceptance member
    exact absurd member List.not_mem_nil
  peaked := peaked_start histogram reporter
  faultless := rfl

namespace Balanced

variable {account : Account} {sent : Nat}

/-- Every accepted number has been sent. -/
theorem number_lt_total
    (balanced : account.Balanced sent)
    {number : UInt64}
    (member : number ∈ account.numbers) :
    number < account.flight.total := by
  obtain ⟨acceptance, present, rfl⟩ := List.mem_map.mp member
  obtain ⟨below, upTo⟩ := balanced.below acceptance present
  exact UInt64.lt_of_lt_of_le below upTo

/-- While a number that was sent is not accepted, fewer numbers were accepted than
messages were sent. -/
theorem length_lt_sent
    (balanced : account.Balanced sent)
    {number : UInt64}
    (wasSent : number < account.flight.total)
    (wasAbsent : number ∉ account.numbers) :
    account.acceptances.length < sent := by
  have bound := EchoHistory.length_le_of_nodup
    (List.nodup_cons.mpr ⟨wasAbsent, balanced.nodup⟩)
    (List.forall_mem_cons.mpr ⟨wasSent, fun _ => balanced.number_lt_total⟩)
  rw [balanced.total, List.length_cons, numbers, List.length_map] at bound
  exact bound

/-- Sending a message keeps the account balanced, short of the limits of the counters. -/
theorem step_sent
    (balanced : account.Balanced sent)
    (room : sent + 1 < 2 ^ 63) :
    (account.step .sent).Balanced (sent + 1) := by
  have outstanding := balanced.outstanding
  have total := balanced.total
  have raised := Flight.toInt_outstanding_sent account.flight (by omega)
  have counted := Flight.toNat_total_sent account.flight (by omega)
  refine
    { total := ?_
      outstanding := ?_
      represents := balanced.represents
      nodup := balanced.nodup
      below := ?_
      peaked := balanced.peaked.step_sent
      faultless := balanced.faultless }
  · rw [flight_step_sent, counted, total]
  · rw [flight_step_sent, raised, outstanding, acceptances_step_sent]
    omega
  · rw [flight_step_sent]
    intro acceptance member
    obtain ⟨below, upTo⟩ := balanced.below acceptance member
    refine ⟨below, UInt64.le_trans upTo ?_⟩
    rw [UInt64.le_iff_toNat_le, counted]
    omega

/-- An accepted event keeps the account balanced: there is an unconfirmed message for
its number, because all numbers accepted so far have been sent and differ from it. -/
theorem step_accepted
    (balanced : account.Balanced sent)
    {event : StreamEvent}
    {number : UInt64}
    (accepts : account.listener.roundTrip.accepted? event = some number) :
    (account.step (.delivered event)).Balanced sent := by
  obtain ⟨fresh, lowered, marked, faultless⟩ := RoundTrip.deliver_of_accepted accepts
  have judged := balanced.represents.check_eq_verdict number account.flight.total
  obtain ⟨wasSent, wasAbsent⟩ := EchoHistory.of_verdict_fresh (judged.symm.trans fresh)
  have acceptances : (account.step (.delivered event)).acceptances =
      ⟨number, account.flight.total⟩ :: account.acceptances := by
    rw [acceptances_step_delivered, accepts]
  have numbers : (account.step (.delivered event)).numbers = number :: account.numbers :=
    congrArg (List.map Acceptance.number) acceptances
  have flight : (account.step (.delivered event)).flight = account.flight.lower := lowered
  have bound := balanced.length_lt_sent wasSent wasAbsent
  have outstanding := balanced.outstanding
  have reduced := Flight.toInt_outstanding_lower account.flight (by omega)
  refine
    { total := ?_
      outstanding := ?_
      represents := ?_
      nodup := ?_
      below := ?_
      peaked := ?_
      faultless := ?_ }
  · rw [flight]
    exact balanced.total
  · rw [flight, acceptances, reduced, outstanding, List.length_cons]
    omega
  · rw [numbers, echoes_step_delivered, marked]
    exact balanced.represents.check_fresh fresh
  · rw [numbers]
    exact List.nodup_cons.mpr ⟨wasAbsent, balanced.nodup⟩
  · rw [acceptances, flight]
    exact List.forall_mem_cons.mpr ⟨⟨wasSent, UInt64.le_refl _⟩, balanced.below⟩
  · apply balanced.peaked.step_delivered
    · rw [flight, Flight.peak_lower]
    · rw [flight, Int64.le_iff_toInt_le, reduced]
      omega
  · have unconfirmed : 0 < account.flight.outstanding.toInt := by omega
    rw [faults_step_delivered, balanced.faultless, faultless unconfirmed]
    rfl

/-- An event that is not accepted changes nothing that the account keeps in balance. -/
theorem step_not_accepted
    (balanced : account.Balanced sent)
    {event : StreamEvent}
    (ignores : account.listener.roundTrip.accepted? event = none) :
    (account.step (.delivered event)).Balanced sent := by
  obtain ⟨kept, unmarked, faultless⟩ := RoundTrip.deliver_of_not_accepted ignores
  have acceptances : (account.step (.delivered event)).acceptances = account.acceptances := by
    rw [acceptances_step_delivered, ignores]
  have numbers : (account.step (.delivered event)).numbers = account.numbers :=
    congrArg (List.map Acceptance.number) acceptances
  have flight : (account.step (.delivered event)).flight = account.flight := kept
  refine
    { total := ?_
      outstanding := ?_
      represents := ?_
      nodup := ?_
      below := ?_
      peaked := ?_
      faultless := ?_ }
  · rw [flight]
    exact balanced.total
  · rw [flight, acceptances]
    exact balanced.outstanding
  · rw [numbers, echoes_step_delivered, unmarked]
    exact balanced.represents
  · rw [numbers]
    exact balanced.nodup
  · rw [acceptances, flight]
    exact balanced.below
  · apply balanced.peaked.step_delivered
    · rw [flight]
    · rw [flight]
      exact Int64.le_refl _
  · rw [faults_step_delivered, balanced.faultless, faultless]
    rfl

end Balanced

/-- Any traffic with few enough messages leaves a balanced account. -/
theorem balanced_ofTraffic
    (histogram : Histogram)
    (reporter : Reporter)
    (traffic : List Traffic)
    (few : traffic.countP Traffic.isSent < 2 ^ 63) :
    (ofTraffic histogram reporter traffic).Balanced (traffic.countP Traffic.isSent) := by
  induction traffic using List.reverseRecOn with
  | nil => exact balanced_start histogram reporter
  | append_singleton earlier latest hypothesis =>
      rw [ofTraffic_append_singleton]
      rw [List.countP_append, List.countP_singleton] at few ⊢
      have balanced := hypothesis (by omega)
      cases latest with
      | sent => exact balanced.step_sent few
      | delivered event =>
          cases accepts : (ofTraffic histogram reporter earlier).listener.roundTrip.accepted?
              event with
          | none => exact balanced.step_not_accepted accepts
          | some number => exact balanced.step_accepted accepts

/-- Whatever traffic a new measurement meets, no confirmation is a fault, the count of
unconfirmed messages is the count of sent messages less the count of distinct accepted
numbers, a number is accepted only after it was sent and only once, and the peak is the
largest value that the count of unconfirmed messages has had. -/
theorem flight_balances_any_traffic
    (histogram : Histogram)
    (reporter : Reporter)
    (traffic : List Traffic)
    (few : traffic.countP Traffic.isSent < 2 ^ 63) :
    forall earlier, earlier <+: traffic ->
      let account := ofTraffic histogram reporter earlier
      account.faults = [] ∧
        account.flight.total.toNat = earlier.countP Traffic.isSent ∧
        account.flight.outstanding.toInt =
          account.flight.total.toNat - account.numbers.toFinset.card ∧
        (forall acceptance, acceptance ∈ account.acceptances ->
          acceptance.number < acceptance.total) ∧
        account.numbers.Nodup ∧
        account.flight.peak ∈ account.levels ∧
        (forall level, level ∈ account.levels -> level ≤ account.flight.peak) := by
  intro earlier isEarlier account
  have fewer : earlier.countP Traffic.isSent < 2 ^ 63 :=
    Nat.lt_of_le_of_lt (isEarlier.sublist.countP_le) few
  have balanced : account.Balanced (earlier.countP Traffic.isSent) :=
    balanced_ofTraffic histogram reporter earlier fewer
  refine ⟨balanced.faultless, balanced.total, ?_, ?_, balanced.nodup,
    balanced.peaked.peak_mem, balanced.peaked.le_peak⟩
  · rw [List.toFinset_card_of_nodup balanced.nodup, balanced.outstanding, balanced.total,
      numbers, List.length_map]
  · intro acceptance member
    exact (balanced.below acceptance member).1

/-- One message is sent and its echo comes twice, among forged and truncated ones. -/
theorem flight_balances_repeated_echo :
    let echo : Traffic := .delivered (.data (List.replicate 20 0) 7 none false)
    let forged : Traffic := .delivered (.data (List.replicate 20 1) 7 none false)
    let truncated : Traffic := .delivered (.data (List.replicate 19 0) 7 none false)
    let traffic := [forged, .sent, truncated, echo, .delivered (.beginOfStream none), echo]
    let account := ofTraffic default ⟨none, ⟨fun _ _ => true, []⟩, .willing, #[]⟩ traffic
    traffic.countP Traffic.isSent < 2 ^ 63 ∧
      account.faults = [] ∧
      account.flight.outstanding.toInt =
        account.flight.total.toNat - account.numbers.toFinset.card ∧
      account.numbers = [0] ∧
      account.flight.total = 1 := by
  intro echo forged truncated traffic account
  have few : traffic.countP Traffic.isSent < 2 ^ 63 := by decide
  obtain ⟨faultless, _, outstanding, _⟩ :=
    flight_balances_any_traffic default ⟨none, ⟨fun _ _ => true, []⟩, .willing, #[]⟩ traffic
      few traffic (List.prefix_refl traffic)
  refine ⟨few, faultless, outstanding, ?_, ?_⟩
  · decide +kernel
  · decide +kernel

end Account
end LatencyMeter

import LatencyMeter.Proofs.Flight
import LatencyMeter.Proofs.Pacer.Stint
import LatencyMeter.Proofs.Sending.Trace
import Mathlib.Data.List.Induction
import Mathlib.Logic.Relation

/-!
# Campaigns of several runs

A campaign is any sequence of runs at one station, one after the other, which share the
flight counters of the station. Each run has a pacer, a plan and a bound on its clock polls
of its own, the pacer may be left by an earlier run, and between any two requests messages
may be confirmed as long as some are unconfirmed. Nothing is assumed of the clock and the
link of the station.

A campaign is followed request by request, so what holds at all its moments holds in the
middle of a run too. There a message may be counted that was not yet handed over, and the
request that comes next tells whether one is.
-/

namespace LatencyMeter

/-- The number that a message carries, if it has a header. -/
def Payload.number? (message : Payload) : Option UInt64 :=
  match Header.decode message with
  | .ok header => some header.number
  | .error _ => none

/-- The number that a message carried when it was handed over. -/
def Handover.number? (handover : Handover) : Option UInt64 := handover.message.number?

/-- Whether the transport refused a message. -/
def Handover.isRefused (handover : Handover) : Bool := handover.fault.isSome

/-- The attempts to hand over a message at a station, in order. -/
def Station.handovers (station : Station) : List Handover :=
  station.history.toList.filterMap fun
    | .attempt message fault => some ⟨message, fault⟩
    | .read _ _ => none

namespace Station

/-- Confirm a message. -/
def confirm (station : Station) : Station :=
  { station with flight := station.flight.confirm.2 }

/-- The accepted messages are those of the attempts that were not refused. -/
theorem accepted_eq (station : Station) :
    station.accepted =
      (station.handovers.filter fun handover => !handover.isRefused).map Handover.message := by
  unfold accepted acceptedIn handovers
  induction station.history.toList with
  | nil => rfl
  | cons occurrence rest hypothesis =>
      rcases occurrence with _ | ⟨message, _ | fault⟩ <;>
        simp [Handover.isRefused, hypothesis]

/-- Every attempt is accepted or refused. -/
theorem length_accepted_add_refused (station : Station) :
    station.accepted.length + station.handovers.countP Handover.isRefused =
      station.handovers.length := by
  rw [accepted_eq, List.length_map, ← List.countP_eq_length_filter,
    List.length_eq_countP_add_countP Handover.isRefused, Nat.add_comm]
  simp

end Station

/-! ## What a station shows of the ledger -/

namespace Ledger

/-- The station of a sending thread shows what the ledger says, after some messages were
confirmed. -/
structure ShownAt (ledger : Ledger) (station : Station) (confirmed : Nat) : Prop where
  total : station.flight.total = UInt64.ofNat ledger.raised
  outstanding : station.flight.outstanding = Int64.ofInt (ledger.counted - confirmed)
  handed : station.handovers = ledger.handed
  attempts : station.attempts = ledger.handed.length

/-- The messages that were handed over are numbered from zero on. -/
def Numbered (ledger : Ledger) : Prop :=
  ledger.handed.map Handover.number? =
    (List.range ledger.handed.length).map fun index => some (UInt64.ofNat index)

variable {ledger : Ledger} {station : Station} {confirmed : Nat}

/-- Whatever a station answers keeps the rules and is shown afterwards. -/
theorem ShownAt.answer
    (shown : ledger.ShownAt station confirmed)
    (request : Sending.Request) :
    let answered := Station.answer request station
    Stint.MayAnswer ledger request answered.1 ∧
      (ledger.after request answered.1).ShownAt answered.2 confirmed := by
  cases request with
  | total => exact ⟨shown.total, shown⟩
  | raiseTotal =>
      refine ⟨trivial, { shown with total := ?_ }⟩
      change station.flight.total + 1 = UInt64.ofNat (ledger.raised + 1)
      rw [shown.total, UInt64.ofNat_add]
      rfl
  | raiseOutstanding =>
      refine ⟨trivial, { shown with outstanding := ?_ }⟩
      change station.flight.outstanding + Int64.ofInt 1 =
        Int64.ofInt ((ledger.counted + 1 : Nat) - confirmed)
      rw [shown.outstanding, ← Int64.ofInt_add]
      congr 1
      omega
  | transmit message =>
      refine ⟨trivial, { shown with handed := ?_, attempts := ?_ }⟩
      · change Station.handovers { station with attempts := _, history := _ } = _
        unfold Station.handovers
        rw [Array.toList_push, List.filterMap_append]
        exact congrArg (· ++ _) shown.handed
      · change station.attempts + 1 = (ledger.handed ++ [_]).length
        rw [List.length_append, shown.attempts]
        rfl
  | clock purpose =>
      have handed : (Station.answer (.clock purpose) station).2.handovers = ledger.handed := by
        change Station.handovers { station with reads := _, history := _ } = _
        unfold Station.handovers
        rw [Array.toList_push, List.filterMap_append]
        exact (List.append_nil _).trans shown.handed
      cases purpose <;> exact ⟨trivial, { shown with handed := handed }⟩
  | raisePeak | peak | wait | note => exact ⟨trivial, { shown with }⟩

theorem ShownAt.confirm (shown : ledger.ShownAt station confirmed) :
    ledger.ShownAt station.confirm (confirmed + 1) := by
  refine { shown with total := ?_, outstanding := ?_ }
  · rw [Station.confirm, Flight.snd_confirm]
    exact shown.total
  · rw [Station.confirm, Flight.snd_confirm]
    change station.flight.outstanding - Int64.ofInt 1 =
      Int64.ofInt (ledger.counted - (confirmed + 1 : Nat))
    rw [shown.outstanding, ← Int64.ofInt_sub]
    congr 1
    omega

theorem le_after (ledger : Ledger) (request : Sending.Request) (answer : request.Answer) :
    ledger.raised ≤ (ledger.after request answer).raised ∧
      ledger.counted ≤ (ledger.after request answer).counted := by
  cases request with
  | raiseTotal => exact ⟨Nat.le_succ _, Nat.le_refl _⟩
  | raiseOutstanding => exact ⟨Nat.le_refl _, Nat.le_succ _⟩
  | clock purpose => cases purpose <;> exact ⟨Nat.le_refl _, Nat.le_refl _⟩
  | _ => exact ⟨Nat.le_refl _, Nat.le_refl _⟩

theorem handed_prefix_after
    (ledger : Ledger)
    (request : Sending.Request)
    (answer : request.Answer) :
    ledger.handed <+: (ledger.after request answer).handed := by
  cases request with
  | transmit message => exact List.prefix_append _ _
  | clock purpose => cases purpose <;> exact List.prefix_refl _
  | _ => exact List.prefix_refl _

/-- A message is never counted as unconfirmed before it is counted as sent. -/
theorem counted_le_after
    {stint : Stint}
    (ledger : Ledger)
    {request : Sending.Request}
    (asks : stint.MayAsk ledger request)
    (answer : request.Answer) :
    (ledger.after request answer).counted ≤ (ledger.after request answer).raised := by
  have bound := request.countedAhead_le
  have raised := asks.stands.raised
  have counted := asks.stands.counted
  cases request with
  | raiseTotal =>
      change ledger.counted ≤ ledger.raised + 1
      omega
  | raiseOutstanding =>
      change ledger.counted + 1 ≤ ledger.raised
      change ledger.raised = ledger.handed.length + 1 at raised
      change ledger.counted = ledger.handed.length + 0 at counted
      omega
  | clock purpose =>
      cases purpose <;>
        · change ledger.counted ≤ ledger.raised
          omega
  | _ =>
      change ledger.counted ≤ ledger.raised
      omega

/-- A message that is described by the ledger carries the next number. -/
theorem Numbered.after
    {stint : Stint}
    (numbered : ledger.Numbered)
    {request : Sending.Request}
    (asks : stint.MayAsk ledger request)
    (answer : request.Answer) :
    (ledger.after request answer).Numbered := by
  cases request with
  | transmit message =>
      have number : Handover.number? ⟨message, answer⟩ =
          some (UInt64.ofNat ledger.handed.length) := by
        unfold Handover.number? Payload.number?
        rw [(asks.described message rfl).decoded]
        rfl
      change List.map _ (ledger.handed ++ [_]) =
        List.map _ (List.range (ledger.handed ++ [_]).length)
      rw [List.map_append, numbered, List.length_append, List.length_singleton,
        List.range_succ, List.map_append, List.map_singleton, number]
      rfl
  | clock purpose => cases purpose <;> exact numbered
  | _ => exact numbered

end Ledger

/-! ## Campaigns -/

/-- A run that has begun. -/
structure Campaign.Begun where
  plan : Plan
  /-- The station when the run began. -/
  before : Station

/-- A run that has come to its end. -/
structure Campaign.Ended extends Campaign.Begun where
  /-- The station when the run ended. -/
  after : Station
  result : Except Failure UInt64

/-- Several runs at a station, at some moment. -/
structure Campaign where
  station : Station
  /-- How many messages were confirmed. -/
  confirmed : Nat
  /-- The run that is underway, with what is left of it. -/
  underway : Option (Campaign.Begun × Sending (Except Failure UInt64 × Pacer))
  ended : List Campaign.Ended

namespace Campaign

/-- No run has begun at a new station. -/
def start (clock : Nat -> UInt64) (link : Nat -> Payload -> Option TransportFault) : Campaign :=
  ⟨Station.start clock link Flight.empty, 0, none, []⟩

/-- What can happen next: a run begins, asks one request, or ends, or a message is confirmed. -/
inductive Next : Campaign -> Campaign -> Prop
  | begin {campaign : Campaign} (linkName : String) (steps : Nat) (plan : Plan) (pacer : Pacer)
      (free : campaign.underway = none) :
      Next campaign
        { campaign with
          underway := some (⟨plan, campaign.station⟩, pacer.run linkName steps plan) }
  | request {campaign : Campaign} {run : Begun} {request : Sending.Request}
      {next : request.Answer -> Sending (Except Failure UInt64 × Pacer)}
      (asks : campaign.underway = some (run, .ask request next)) :
      Next campaign
        { campaign with
          station := (campaign.station.answer request).2
          underway := some (run, next (campaign.station.answer request).1) }
  | finish {campaign : Campaign} {run : Begun} {result : Except Failure UInt64} {pacer : Pacer}
      (ends : campaign.underway = some (run, .done (result, pacer))) :
      Next campaign
        { campaign with
          underway := none
          ended := campaign.ended ++ [⟨run, campaign.station, result⟩] }
  | confirm {campaign : Campaign}
      (unconfirmed : 0 < campaign.station.flight.outstanding) :
      Next campaign
        { campaign with
          station := campaign.station.confirm
          confirmed := campaign.confirmed + 1 }

/-- A moment that a campaign can come to. -/
def Reached
    (clock : Nat -> UInt64)
    (link : Nat -> Payload -> Option TransportFault)
    (campaign : Campaign) :
    Prop :=
  Relation.ReflTransGen Next (start clock link) campaign

/-- How many messages are counted as sent and not handed over yet. -/
def ahead (campaign : Campaign) : Nat :=
  match campaign.underway with
  | some (_, .ask request _) => request.raisedAhead
  | _ => 0

/-- How many messages are counted as sent and not as unconfirmed yet. -/
def halfway (campaign : Campaign) : Nat :=
  match campaign.underway with
  | some (_, .ask request _) => request.raisedAhead - request.countedAhead
  | _ => 0

/-- How a run ends: all messages of its plan were accepted, or one was refused, all before it
were accepted and none was handed over after it. -/
inductive Ended.Lawful (run : Ended) : Prop
  | completed (messages : List Payload)
      (handed : run.after.handovers =
        run.before.handovers ++ messages.map Handover.accepted)
      (length : messages.length = run.plan.count.toNat)
      (total : run.after.flight.total = run.before.flight.total + UInt64.ofNat messages.length)
      (result : run.result = .ok run.plan.count)
  | failed (messages : List Payload) (refused : Payload) (fault : TransportFault) (stage : Stage)
      (handed : run.after.handovers =
        run.before.handovers ++ messages.map Handover.accepted ++ [⟨refused, some fault⟩])
      (length : messages.length < run.plan.count.toNat)
      (total : run.after.flight.total =
        run.before.flight.total + UInt64.ofNat (messages.length + 1))
      (result : run.result = .error ((Failure.ofCause (.transport fault)).within stage))

/-- The stint of a run. -/
def Begun.stint (run : Begun) (length : Nat) : Stint :=
  ⟨run.before.handovers, run.plan, length⟩

/-- The run that is underway keeps the rules from here on; between runs no message is on its
way. -/
def Goes (campaign : Campaign) (ledger : Ledger) : Prop :=
  match campaign.underway with
  | none => ledger.Settled
  | some (run, rest) =>
      run.before.flight.total = UInt64.ofNat run.before.handovers.length ∧
        exists length,
          (run.stint length).protocol.Follows
            (fun later result => (run.stint length).Concluded later result.1) ledger rest

/-- At any moment of a campaign the station shows the ledger, and all runs are lawful. -/
structure Sound (campaign : Campaign) (ledger : Ledger) : Prop where
  shown : ledger.ShownAt campaign.station campaign.confirmed
  numbered : ledger.Numbered
  counted_le : ledger.counted ≤ ledger.raised
  confirmed_le : ledger.raised < 2 ^ 63 -> campaign.confirmed ≤ ledger.counted
  ended : forall run, run ∈ campaign.ended ->
    run.Lawful ∧ run.after.handovers <+: ledger.handed
  goes : campaign.Goes ledger

namespace Sound

variable {campaign later : Campaign} {ledger : Ledger}

theorem start
    (clock : Nat -> UInt64)
    (link : Nat -> Payload -> Option TransportFault) :
    (start clock link).Sound Ledger.blank where
  shown := ⟨rfl, rfl, rfl, rfl⟩
  numbered := rfl
  counted_le := Nat.le_refl 0
  confirmed_le := fun _ => Nat.le_refl 0
  ended := fun _ member => absurd member List.not_mem_nil
  goes := ⟨rfl, rfl⟩

/-- The request that comes next tells how far the counters are ahead. -/
theorem ahead
    (sound : campaign.Sound ledger) :
    ledger.raised = ledger.handed.length + campaign.ahead ∧
      ledger.counted + campaign.halfway = ledger.raised := by
  have goes := sound.goes
  unfold Goes at goes
  unfold Campaign.ahead halfway
  have idle (settled : ledger.Settled) :
      ledger.raised = ledger.handed.length + 0 ∧ ledger.counted + 0 = ledger.raised :=
    ⟨settled.raised, settled.counted.trans settled.raised.symm⟩
  split at goes
  · next free =>
    rw [free]
    exact idle goes
  · next run rest continues =>
    obtain ⟨_, length, follows⟩ := goes
    rw [continues]
    cases rest with
    | done result => exact idle (Stint.Concluded.settled follows)
    | unfinished =>
        obtain ⟨messages, sent⟩ := follows
        exact idle sent.settled
    | ask request next =>
        obtain ⟨mayAsk, _⟩ := follows
        have bound := request.countedAhead_le
        refine ⟨mayAsk.stands.raised, ?_⟩
        change ledger.counted + (request.raisedAhead - request.countedAhead) = ledger.raised
        rw [mayAsk.stands.counted, mayAsk.stands.raised]
        omega

/-- A run that has ended as its protocol says is lawful. -/
theorem lawful
    {run : Begun}
    {length : Nat}
    {result : Except Failure UInt64}
    (shown : ledger.ShownAt campaign.station campaign.confirmed)
    (total : run.before.flight.total = UInt64.ofNat run.before.handovers.length)
    (concluded : (run.stint length).Concluded ledger result) :
    Ended.Lawful ⟨run, campaign.station, result⟩ := by
  have settled := Stint.Concluded.settled concluded
  have counted (more : Nat) (grown : ledger.handed.length = run.before.handovers.length + more) :
      campaign.station.flight.total = run.before.flight.total + UInt64.ofNat more := by
    rw [shown.total, settled.raised, grown, UInt64.ofNat_add, total]
  cases result with
  | ok count =>
      obtain ⟨rfl, messages, sent, all⟩ := concluded
      refine .completed messages (shown.handed.trans sent.handed) all (counted _ ?_) rfl
      simp [sent.handed, Begun.stint]
  | error failure =>
      obtain ⟨messages, fault, stage, refused, rfl⟩ := concluded
      obtain ⟨message, handed⟩ := refused.handed
      refine .failed messages message fault stage (shown.handed.trans handed) refused.within
        (counted _ ?_) rfl
      simp [handed, Begun.stint]

theorem next
    (sound : campaign.Sound ledger)
    (next : campaign.Next later) :
    exists ledger, later.Sound ledger := by
  have goes := sound.goes
  cases next with
  | begin linkName steps plan pacer free =>
      rw [Goes, free] at goes
      have settled : ledger.Settled := goes
      have follows := Pacer.follows_run linkName steps plan pacer settled
      rw [← sound.shown.handed] at follows
      refine ⟨ledger, { sound with goes := ⟨?_, pacer.buffer.bytes.length, ?_⟩ }⟩
      · change campaign.station.flight.total = UInt64.ofNat campaign.station.handovers.length
        rw [sound.shown.total, settled.raised, sound.shown.handed]
      · exact follows.weaken fun _ _ ends => ends.1
  | @request run request next asks =>
      rw [Goes, asks] at goes
      obtain ⟨total, length, mayAsk, follows⟩ := goes
      obtain ⟨credible, shown⟩ := sound.shown.answer request
      refine ⟨ledger.after request _,
        { shown := shown
          numbered := sound.numbered.after mayAsk _
          counted_le := ledger.counted_le_after mayAsk _
          confirmed_le := fun few => ?_
          ended := fun run member => ?_
          goes := ⟨total, length, follows _ credible⟩ }⟩
      · obtain ⟨raised, counted⟩ := ledger.le_after request (Station.answer request _).1
        exact Nat.le_trans (sound.confirmed_le (Nat.lt_of_le_of_lt raised few)) counted
      · obtain ⟨lawful, earlier⟩ := sound.ended run member
        exact ⟨lawful, earlier.trans (ledger.handed_prefix_after request _)⟩
  | finish ends =>
      rw [Goes, ends] at goes
      obtain ⟨total, length, concluded⟩ := goes
      refine ⟨ledger, { sound with ended := ?_, goes := Stint.Concluded.settled concluded }⟩
      intro run member
      rcases List.mem_append.mp member with earlier | last
      · exact sound.ended run earlier
      · obtain rfl := List.mem_singleton.mp last
        exact ⟨lawful sound.shown total concluded, sound.shown.handed ▸ List.prefix_refl _⟩
  | confirm unconfirmed =>
      refine ⟨ledger, { sound with shown := sound.shown.confirm, confirmed_le := ?_ }⟩
      intro few
      -- While the counts fit, a positive word means that some message is unconfirmed.
      have confirmed := sound.confirmed_le few
      have counted := sound.counted_le
      rw [sound.shown.outstanding, Int64.lt_iff_toInt_lt,
        Int64.toInt_ofInt_of_le (by omega) (by omega)] at unconfirmed
      change 0 < (ledger.counted - campaign.confirmed : Int) at unconfirmed
      change campaign.confirmed + 1 ≤ ledger.counted
      omega

/-- Every moment of a campaign is sound. -/
theorem of_reached
    {clock : Nat -> UInt64}
    {link : Nat -> Payload -> Option TransportFault}
    (reached : Reached clock link campaign) :
    exists ledger, campaign.Sound ledger := by
  induction reached with
  | refl => exact ⟨Ledger.blank, .start clock link⟩
  | tail _ step hypothesis =>
      obtain ⟨ledger, sound⟩ := hypothesis
      exact sound.next step

end Sound

variable {clock : Nat -> UInt64} {link : Nat -> Payload -> Option TransportFault}
  {campaign : Campaign}

/-- A campaign may go through the requests of a run up to its result. -/
theorem goes_through
    {run : Begun}
    {program : Sending (Except Failure UInt64 × Pacer)}
    (continues : campaign.underway = some (run, program))
    {result : Except Failure UInt64 × Pacer}
    (ends : (campaign.station.run program).1 = some result) :
    Relation.ReflTransGen Next campaign
      { campaign with
        station := (campaign.station.run program).2
        underway := some (run, .done result) } := by
  induction program generalizing campaign with
  | done final =>
      obtain rfl := Option.some.inj ends
      rw [← continues]
      exact .refl
  | unfinished => contradiction
  | ask request next hypothesis =>
      refine .head (.request continues) ?_
      exact hypothesis _ rfl ends

/-- Between runs, a campaign may run any plan that comes to an end at its station. -/
theorem Reached.run
    (reached : Reached clock link campaign)
    (free : campaign.underway = none)
    (linkName : String)
    (steps : Nat)
    (plan : Plan)
    (pacer : Pacer)
    (ends : (campaign.station.run (pacer.run linkName steps plan)).1.isSome) :
    exists later,
      Reached clock link later ∧
        later.station = (campaign.station.run (pacer.run linkName steps plan)).2 ∧
        later.underway = none ∧
        later.confirmed = campaign.confirmed ∧
        exists result,
          later.ended = campaign.ended ++ [⟨⟨plan, campaign.station⟩, later.station, result⟩] := by
  obtain ⟨⟨result, left⟩, ends⟩ := Option.isSome_iff_exists.mp ends
  have begins := reached.tail (.begin linkName steps plan pacer free)
  have runs := begins.trans (goes_through rfl ends)
  exact ⟨_, runs.tail (.finish rfl), rfl, rfl, rfl, result, rfl⟩

/-- A campaign may confirm a message as long as one is unconfirmed. -/
theorem Reached.confirm
    (reached : Reached clock link campaign)
    (unconfirmed : 0 < campaign.station.flight.outstanding) :
    exists later,
      Reached clock link later ∧
        later.station = campaign.station.confirm ∧
        later.underway = campaign.underway ∧
        later.confirmed = campaign.confirmed + 1 ∧
        later.ended = campaign.ended :=
  ⟨_, reached.tail (.confirm unconfirmed), rfl, rfl, rfl, rfl⟩

/-- At any moment of any campaign with few enough messages, the messages handed over so far
carry the numbers from zero on, refused messages included, and those of the accepted messages
increase. Every run that has ended delivered its plan, or it failed with the fault of its
first refused message, which was the last that it handed over. The count of sent messages is
that of the accepted and the refused ones, and the count of unconfirmed messages is less by
the confirmations, up to the message that is being handed over. -/
theorem numbers_unique_over_campaign
    (reached : Reached clock link campaign)
    (few : campaign.station.attempts + campaign.ahead < 2 ^ 63) :
    let station := campaign.station
    station.handovers.map Handover.number? =
        (List.range station.attempts).map (fun index => some (UInt64.ofNat index)) ∧
      (station.handovers.map Handover.number?).Nodup ∧
      (exists numbers : List UInt64,
        station.accepted.map Payload.number? = numbers.map some ∧ numbers.Pairwise (· < ·)) ∧
      (forall run, run ∈ campaign.ended ->
        run.Lawful ∧ run.after.handovers <+: station.handovers) ∧
      station.flight.total.toNat =
        station.accepted.length + station.handovers.countP Handover.isRefused +
          campaign.ahead ∧
      station.flight.outstanding.toInt =
        station.flight.total.toNat - campaign.confirmed - campaign.halfway := by
  intro station
  obtain ⟨ledger, sound⟩ := Sound.of_reached reached
  obtain ⟨raised, counted⟩ := sound.ahead
  have attempts := sound.shown.attempts
  have handed := sound.shown.handed
  have size : UInt64.size = 2 ^ 64 := rfl
  have numbers : station.handovers.map Handover.number? =
      ((List.range station.attempts).map UInt64.ofNat).map some := by
    rw [handed, sound.numbered, attempts, List.map_map]
    rfl
  have increasing : ((List.range station.attempts).map UInt64.ofNat).Pairwise (· < ·) := by
    refine List.pairwise_map.mpr (List.pairwise_lt_range.imp_of_mem ?_)
    intro earlier later _ member before
    have bound : later < station.attempts := List.mem_range.mp member
    change station.attempts + campaign.ahead < 2 ^ 63 at few
    rw [UInt64.lt_iff_toNat_lt, UInt64.toNat_ofNat_of_lt' (by omega),
      UInt64.toNat_ofNat_of_lt' (by omega)]
    exact before
  have total : station.flight.total.toNat = ledger.raised := by
    rw [sound.shown.total]
    exact UInt64.toNat_ofNat_of_lt' (by omega)
  refine ⟨?_, ?_, ?_, ?_, ?_, ?_⟩
  · rw [numbers, List.map_map]
    rfl
  · rw [numbers]
    exact (increasing.imp UInt64.ne_of_lt).map some (fun _ _ distinct => by simpa using distinct)
  -- The numbers of the accepted messages are among the numbers of all.
  · have sublist : (station.accepted.map Payload.number?).Sublist
        (station.handovers.map Handover.number?) := by
      rw [station.accepted_eq, List.map_map]
      exact List.filter_sublist.map _
    rw [numbers] at sublist
    obtain ⟨accepted, inOrder, same⟩ := List.sublist_map_iff.mp sublist
    exact ⟨accepted, same, increasing.sublist inOrder⟩
  · rw [handed]
    exact sound.ended
  · rw [Station.length_accepted_add_refused, handed, total, raised]
  · have confirmed := sound.confirmed_le (by omega)
    rw [total, sound.shown.outstanding, Int64.toInt_ofInt_of_le (by omega) (by omega)]
    omega

/-- The second message of a catch-up run is refused, one message is confirmed, and a delayed
run sends two messages more. -/
theorem numbers_after_refused_message :
    let clock := fun reading => Word.clamp (reading * 400000000)
    let link := fun attempt _ => if attempt = 1 then some TransportFault.disconnected else none
    exists campaign,
      Reached clock link campaign ∧
        campaign.station.attempts + campaign.ahead < 2 ^ 63 ∧
        campaign.ended.map (fun run => run.after.flight.total) = [2, 4] ∧
        (forall run, run ∈ campaign.ended -> run.Lawful) ∧
        campaign.station.handovers.map Handover.number? = [some 0, some 1, some 2, some 3] ∧
        campaign.station.accepted.map Payload.number? = [some 0, some 2, some 3] ∧
        campaign.station.flight.outstanding.toInt = 3 := by
  intro clock link
  let buffer := Buffer.zeroed 24 (by decide)
  let first : Pacer := ⟨.catchUp, buffer, 0⟩
  let second : Pacer := ⟨.delayed (Duration.ofNanos 5), buffer, 0⟩
  have begins : Reached clock link (start clock link) := .refl
  obtain ⟨refused, reached, station, free, confirmed, result, ended⟩ :=
    begins.run rfl "loopback" 9 ⟨3, 2, true⟩ first (by decide +kernel)
  obtain ⟨resumed, reached, resumes, idle, one, kept⟩ := reached.confirm (by
    rw [station]
    decide +kernel)
  rw [station] at resumes
  obtain ⟨campaign, reached, last, idle, all, _, both⟩ :=
    reached.run (idle.trans free) "loopback" 9 ⟨2, 2, false⟩ second (by
      rw [resumes]
      decide +kernel)
  rw [resumes] at last
  have attempts : campaign.station.attempts = 4 := by
    rw [last]
    decide +kernel
  have few : campaign.station.attempts + campaign.ahead < 2 ^ 63 := by
    rw [attempts, ahead, idle]
    decide
  obtain ⟨numbers, _, _, lawful, _, balance⟩ := numbers_unique_over_campaign reached few
  refine ⟨campaign, reached, few, ?_, fun run member => (lawful run member).1, ?_, ?_, ?_⟩
  · rw [both, kept, ended, List.map_append, List.map_append, List.map_singleton,
      List.map_singleton, station, last]
    dsimp only
    decide +kernel
  · rw [numbers, attempts]
    rfl
  · rw [last]
    decide +kernel
  · rw [balance, last, all, one, confirmed, halfway, idle]
    decide +kernel

end Campaign
end LatencyMeter

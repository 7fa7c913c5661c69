import LatencyMeter.Proofs.Histogram.Samples
import LatencyMeter.Proofs.RoundTrip.StreamCounts
import LatencyMeter.Proofs.Session.Course

/-!
# What arrives on a loopback path

On a loopback path the messages of a measurement arrive in the order of their numbers, each
of them once. Then every number is newer than all that were accepted before, so the echo
window judges it to be fresh, however many messages there are. `RoundTrip.Heard` says how the
measurement stands after the first messages have arrived, and hearing the next one leads to
the same for one message more.

The messages of the warmup are not stamped and leave no samples. So forgetting all samples
between warmup and measured messages changes nothing, wherever the receive thread stands.
-/

namespace LatencyMeter

/-- A number that is newer than all accepted ones is fresh once it was sent. -/
theorem EchoHistory.verdict_of_newer
    {history : EchoHistory}
    {number total : UInt64}
    (sent : number < total)
    (newer : forall older, older ∈ history -> older < number) :
    history.verdict number total = .fresh := by
  have near : history.outruns number = false := by
    unfold outruns
    cases greatest : history.max? with
    | none => rfl
    | some newest =>
        have older := newer newest (List.max?_mem greatest)
        simp [UInt64.not_le.mpr older]
  have unknown : number ∉ history := fun member => UInt64.lt_irrefl _ (newer number member)
  unfold verdict
  rw [if_neg (UInt64.not_le.mpr sent), near, if_neg Bool.false_ne_true, if_neg unknown]

/-- A message, and when the receive thread took it from the queue. -/
structure Pickup where
  message : Payload
  receivedAt : UInt64

namespace Pickup

/-- The send time in the header of the message. -/
def sentAt (pickup : Pickup) : UInt64 :=
  match Header.decode pickup.message with
  | .ok header => header.sentAt
  | .error _ => 0

/-- How long the round trip of the message took. -/
def interval (pickup : Pickup) : UInt64 := pickup.receivedAt - pickup.sentAt

end Pickup

namespace PingSettings

/-- A message has a number and was stamped no later than a moment, if it was stamped. -/
def IsTimely (settings : PingSettings) (now : UInt64) (number : Nat) (message : Payload) : Prop :=
  exists stamp, stamp ≤ now ∧ settings.IsMessage number stamp message

/-- The samples of some pickups are the round trips of those behind the warmup. -/
def samplesOf (settings : PingSettings) (pickups : List Pickup) : List UInt64 :=
  (pickups.drop settings.warmupCount).map Pickup.interval

/-- The histogram of the samples of some pickups. -/
def histogramOf (settings : PingSettings) (pickups : List Pickup) : Histogram :=
  Histogram.ofSamples settings.geometry.bucketCount.toNat settings.geometry.bucketWidth
    (settings.samplesOf pickups)

variable {settings : PingSettings} {pickups : List Pickup}

/-- The messages of the warmup leave no samples. -/
theorem samplesOf_warmup (early : pickups.length ≤ settings.warmupCount) :
    settings.samplesOf pickups = [] := by
  rw [samplesOf, List.drop_of_length_le early, List.map_nil]

/-- One more measured message leaves one more sample. -/
theorem samplesOf_append_singleton
    (late : settings.warmupCount ≤ pickups.length)
    (pickup : Pickup) :
    settings.samplesOf (pickups ++ [pickup]) =
      settings.samplesOf pickups ++ [pickup.interval] := by
  rw [samplesOf, samplesOf, List.drop_append_of_le_length late, List.map_append,
    List.map_singleton]

/-- A message that arrives in time has a send time no later than its pickup. -/
theorem IsTimely.sentAt_le
    {pickup : Pickup}
    {number : Nat}
    (timely : settings.IsTimely pickup.receivedAt number pickup.message) :
    pickup.sentAt ≤ pickup.receivedAt := by
  obtain ⟨stamp, early, isMessage⟩ := timely
  rw [Pickup.sentAt, isMessage.decoded]
  dsimp only
  split
  · exact early
  · exact UInt64.zero_le

/-- How the judgement on a fresh message that arrives in time counts and what it samples. -/
theorem IsTimely.judgement
    {pickup : Pickup}
    {header : Header}
    (timely : settings.IsTimely pickup.receivedAt pickups.length pickup.message)
    (decoded : Header.decode pickup.message = .ok header) :
    let judgement : Judgement := ⟨⟨header, pickup.receivedAt, false⟩, .fresh⟩
    judgement.backwards = false ∧
      judgement.sample? =
        if settings.warmupCount ≤ pickups.length then some pickup.interval else none := by
  intro judgement
  have forwards := timely.sentAt_le
  obtain ⟨stamp, _, isMessage⟩ := timely
  have sentAt : pickup.sentAt = header.sentAt := by rw [Pickup.sentAt, decoded]
  have timed : judgement.timed = decide (settings.warmupCount ≤ pickups.length) := by
    obtain rfl := Except.ok.inj (decoded.symm.trans isMessage.decoded)
    change (Sending.flagsFor _ &&& Header.timestampFlag != 0) = _
    cases decide (settings.warmupCount ≤ pickups.length) <;> rfl
  have backwards : judgement.backwards = false := by
    have notBefore : ¬ pickup.receivedAt < header.sentAt :=
      UInt64.not_lt.mpr (sentAt ▸ forwards)
    change (judgement.timed && decide (pickup.receivedAt < header.sentAt)) = false
    rw [decide_eq_false notBefore, Bool.and_false]
  refine ⟨backwards, ?_⟩
  rw [Judgement.sample?, backwards, timed, Bool.not_false, Bool.and_true,
    Pickup.interval, sentAt]
  simp only [decide_eq_true_eq, judgement]

end PingSettings

/-! ## Hearing -/

/-- How a measurement stands when the counters of sent and of unconfirmed messages were
raised so often, and the first messages have arrived in their order. -/
structure RoundTrip.Heard
    (state : RoundTrip)
    (settings : PingSettings)
    (raised counted : Nat)
    (pickups : List Pickup) :
    Prop where
  total : state.flight.total = UInt64.ofNat raised
  outstanding : state.flight.outstanding.toInt = counted - pickups.length
  echoes : state.echoes.Represents ((List.range pickups.length).reverse.map UInt64.ofNat)
  counts : state.counts = ⟨UInt64.ofNat pickups.length, 0, 0, 0, 0⟩
  histogram : state.histogram = settings.histogramOf pickups

namespace RoundTrip.Heard

variable {state : RoundTrip} {settings : PingSettings} {raised counted : Nat}
  {pickups : List Pickup}

/-- Nothing was sent and nothing has arrived. -/
theorem start
    {histogram : Histogram}
    (created : Histogram.create settings.geometry = .ok histogram) :
    (RoundTrip.start histogram).Heard settings 0 0 [] where
  total := rfl
  outstanding := rfl
  echoes := EchoWindow.represents_empty
  counts := rfl
  histogram := by
    unfold Histogram.create at created
    split at created
    · contradiction
    split at created
    · contradiction
    · have fresh := Except.ok.inj created
      rw [PingSettings.histogramOf, PingSettings.samplesOf_warmup (Nat.zero_le _),
        ← Histogram.fresh_eq_ofSamples]
      exact fresh.symm

/-- A stream that begins before anything has arrived changes nothing. -/
theorem beginOfStream
    (heard : state.Heard settings raised counted [])
    (source : Option SocketAddress) :
    state.deliver (.beginOfStream source) = ⟨state, none, none⟩ := by
  have same : ReceiveCounts.zero = state.counts := heard.counts.symm
  rw [deliver, same]

/-- As long as only the warmup has arrived there are no samples to forget. -/
theorem resetSamples
    (heard : state.Heard settings raised counted pickups)
    (early : pickups.length ≤ settings.warmupCount) :
    state.resetSamples = state := by
  have same : state.histogram.reset = state.histogram := by
    rw [heard.histogram, PingSettings.histogramOf, Histogram.reset_ofSamples,
      PingSettings.samplesOf_warmup early]
  rw [RoundTrip.resetSamples, same]

/-- The number of the next message is fresh. -/
theorem fresh
    (heard : state.Heard settings raised counted pickups)
    (room : raised < 2 ^ 63)
    (sent : pickups.length < raised) :
    (state.echoes.check (UInt64.ofNat pickups.length) state.flight.total).1 = .fresh := by
  have size : UInt64.size = 2 ^ 64 := rfl
  have word (number : Nat) (small : number ≤ raised) : (UInt64.ofNat number).toNat = number :=
    UInt64.toNat_ofNat_of_lt' (by omega)
  -- The accepted numbers are those of the messages heard before, so all are smaller.
  rw [heard.echoes.check_eq_verdict, heard.total]
  apply EchoHistory.verdict_of_newer
  · rwa [UInt64.lt_iff_toNat_lt, word _ (Nat.le_of_lt sent), word _ (Nat.le_refl _)]
  · intro older member
    obtain ⟨number, earlier, rfl⟩ := List.mem_map.mp member
    have before := List.mem_range.mp (List.mem_reverse.mp earlier)
    rwa [UInt64.lt_iff_toNat_lt, word _ (by omega), word _ (Nat.le_of_lt sent)]

/-- The next message is fresh, is counted and confirmed, and leaves its sample. -/
theorem hear
    (heard : state.Heard settings raised counted pickups)
    (positive : 0 < settings.geometry.bucketWidth)
    (room : raised < 2 ^ 63)
    (counted_le : counted ≤ raised)
    (unconfirmed : pickups.length < counted)
    {pickup : Pickup}
    (timely : settings.IsTimely pickup.receivedAt pickups.length pickup.message)
    (source : Option SocketAddress) :
    let step := state.deliver (.data pickup.message pickup.receivedAt source false)
    step.fault = none ∧ step.state.Heard settings raised counted (pickups ++ [pickup]) := by
  intro step
  obtain ⟨_, _, isMessage⟩ := id timely
  have fresh := heard.fresh room (Nat.lt_of_lt_of_le unconfirmed counted_le)
  have accepts : state.accepted? (.data pickup.message pickup.receivedAt source false) =
      some (UInt64.ofNat pickups.length) := by
    simp only [accepted?, isMessage.decoded]
    exact if_pos fresh
  obtain ⟨_, flight, echoes, faultless⟩ := deliver_of_accepted accepts
  have fault : step.fault = none := faultless (by rw [heard.outstanding]; omega)
  obtain ⟨counts, histogram⟩ := deliver_judged isMessage.decoded fault
  obtain ⟨backwards, sample⟩ := timely.judgement isMessage.decoded
  rw [judge, fresh] at counts histogram
  have grown : (pickups ++ [pickup]).length = pickups.length + 1 := List.length_append
  refine ⟨fault, ?_, ?_, ?_, ?_, ?_⟩
  · rw [flight]
    exact heard.total
  · rw [flight, Flight.toInt_outstanding_lower _ (by rw [heard.outstanding]; omega),
      heard.outstanding, grown]
    omega
  · rw [echoes, grown, List.range_succ, List.reverse_append]
    exact heard.echoes.check_fresh fresh
  · rw [counts, Judgement.count, backwards, heard.counts, grown, UInt64.ofNat_add]
    rfl
  · rw [histogram, Judgement.record, sample, heard.histogram, PingSettings.histogramOf,
      PingSettings.histogramOf]
    split
    · next late =>
      -- A histogram does not depend on the order of its samples.
      rw [PingSettings.samplesOf_append_singleton late]
      exact (Histogram.record_ofSamples positive _ _ _).trans
        (Histogram.ofSamples_eq_of_perm _ _ (List.perm_append_singleton _ _).symm)
    · next early =>
      have most : (pickups ++ [pickup]).length ≤ settings.warmupCount := by omega
      rw [PingSettings.samplesOf_warmup most, PingSettings.samplesOf_warmup (by omega)]
      rfl

end RoundTrip.Heard
end LatencyMeter

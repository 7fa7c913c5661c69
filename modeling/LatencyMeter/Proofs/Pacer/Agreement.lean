import LatencyMeter.Proofs.Pacer.Errand

/-!
# The two pacers agree on everything but timing

The catch-up pacer sends in bursts as its clock says, and the delayed pacer sends one message
after the other. Both carry out the errand of their plan. So wherever a catch-up run comes to
an end, a delayed run from equal counters over an equal link comes to the same end, whatever
its clock, its delay and its bound on clock polls: both hand over the same messages up to send
times, and both deliver all of them or fail at the same message with the same fault.

The clocks of the two runs may differ, so an equal link is sure to give equal answers only if
it does not look at the send times: one that refuses messages of a certain send time may fail
one run and not the other. If the messages are not stamped there are none to look at. A link
answers by the number of the attempt, which settles the earlier messages up to send times, so
a transport that remembers what was handed over before is a link too.
-/

namespace LatencyMeter

/-- After a program that ends, also what precedes it has ended. -/
theorem Station.isSome_of_bind
    {confirmations : Confirmations}
    {station : Station}
    {program : Sending α}
    {next : α -> Sending β}
    (ends : (station.runAmid confirmations (program >>= next)).1.isSome) :
    (station.runAmid confirmations program).1.isSome := by
  cases first : station.runAmid confirmations program with
  | mk result after =>
      cases result with
      | none =>
          rw [runAmid_bind_of_none first] at ends
          contradiction
      | some result => rfl

namespace Pacer

open Errand

variable {errand : Errand} {confirmations : Confirmations} {before : Station}
variable {progress : Progress}

theorem carries_burst
    (confirmations : Confirmations)
    (blind : errand.Blind)
    (linkName : String)
    (remaining : Nat)
    (ready : errand.Ready before progress) :
    errand.Carries .pacedLoop confirmations remaining progress.sent before
      (burst linkName errand.plan.timestamp remaining progress) := by
  induction remaining generalizing progress before with
  | zero => exact .nothing _ _ ready
  | succ remaining hypothesis =>
      exact .launch blind ready linkName fun _ _ there => hypothesis there

/-- A catch-up loop that ends has sent what was left of its plan. -/
theorem carries_catchUpFrom
    (blind : errand.Blind)
    (linkName : String)
    (start : UInt64)
    (steps : Nat)
    (now : UInt64)
    {remaining : Nat}
    (ready : errand.Ready before progress)
    (room : progress.sent.toNat + remaining = errand.plan.count.toNat)
    (ends : (before.runAmid confirmations
      (catchUpFrom linkName errand.plan start steps now progress)).1.isSome) :
    errand.Carries .pacedLoop confirmations remaining progress.sent before
      (catchUpFrom linkName errand.plan start steps now progress) := by
  have complete
      {progress : Progress}
      {remaining : Nat}
      (room : progress.sent.toNat + remaining = errand.plan.count.toNat)
      (notBefore : ¬ progress.sent < errand.plan.count) :
      remaining = 0 := by
    rw [UInt64.lt_iff_toNat_lt] at notBefore
    omega
  induction steps generalizing now progress before remaining with
  | zero =>
      unfold catchUpFrom at ends ⊢
      split at ends
      · contradiction
      · next notBefore =>
          obtain rfl := complete room notBefore
          rw [if_neg notBefore]
          exact .nothing _ _ ready
  | succ steps hypothesis =>
      unfold catchUpFrom at ends ⊢
      split at ends
      · next left =>
          rw [if_pos left]
          extract_lets due missing largest at ends
          extract_lets
          have within : progress.sent.toNat + missing.toNat ≤ errand.plan.count.toNat :=
            Schedule.add_missing_le (UInt64.le_of_lt left) _ _
          obtain ⟨rest, rfl⟩ : exists rest, remaining = missing.toNat + rest :=
            Nat.exists_eq_add_of_le (by omega)
          have bursts : errand.Carries .pacedLoop confirmations missing.toNat progress.sent before
              (burst linkName errand.plan.timestamp missing.toNat
                { progress with largest := largest }) :=
            carries_burst confirmations blind linkName missing.toNat ⟨ready.link, ready.filler⟩
          refine .andThen ready _ bursts (fun _ _ => rfl) fun later middle runs there sent => ?_
          rw [Station.runAmid_bind runs] at ends
          refine .ask rfl there fun now polled asked ready => ?_
          obtain ⟨rfl, rfl⟩ := Prod.mk.inj asked
          refine hypothesis _ ready ?_ ends
          -- A burst within the plan does not wrap the count of sent messages.
          have bound := errand.plan.count.toNat_lt
          rw [sent, Word.toNat_add_ofNat (by omega), Nat.add_assoc, room]
      · next notBefore =>
          obtain rfl := complete room notBefore
          rw [if_neg notBefore]
          exact .nothing _ _ ready

theorem carries_delayedFrom
    (confirmations : Confirmations)
    (blind : errand.Blind)
    (linkName : String)
    (delay : Duration)
    (remaining : Nat)
    (ready : errand.Ready before progress) :
    errand.Carries .delayedLoop confirmations remaining progress.sent before
      (delayedFrom linkName delay errand.plan remaining progress) := by
  induction remaining generalizing progress before with
  | zero => exact .nothing _ _ ready
  | succ remaining hypothesis =>
      unfold delayedFrom
      extract_lets launches
      have launched {station : Station} (ready : errand.Ready station progress) :
          errand.Carries .delayedLoop confirmations (remaining + 1) progress.sent station
            (launches ()) :=
        .launch blind ready linkName fun _ _ there => hypothesis there
      split
      · exact .ask rfl ready fun _ _ _ waited => launched waited
      · exact launched ready

/-! ## Runs -/

/-- How a run ends: all messages of its plan are delivered, or it fails with the fault of the
message that was refused. -/
def Concludes (plan : Plan) (stage : Stage) (fate : Fate) (outcome : Except Failure UInt64) :
    Prop :=
  match fate.refusal with
  | none => outcome = .ok plan.count ∧ fate.delivered.length = plan.count.toNat
  | some (_, fault) =>
      outcome = .error ((Failure.ofCause (.transport fault)).within stage) ∧
        fate.delivered.length < plan.count.toNat

/-- A run ends as its sending loop does. -/
theorem concludes_run
    {stage : Stage}
    (linkName : String)
    (steps : Nat)
    (pacer : Pacer)
    (carries : errand.Carries stage confirmations errand.plan.count.toNat 0 before
      (pacer.loop linkName steps errand.plan)) :
    exists fate outcome after,
      before.runAmid confirmations (pacer.run linkName steps errand.plan) = (some outcome, after) ∧
        errand.Meets confirmations errand.plan.count.toNat before fate after ∧
        Concludes errand.plan stage fate outcome.1 := by
  obtain ⟨fate, ⟨failure, progress⟩, middle, runs, meets, tells⟩ := carries
  have told : failure = _ := tells.failure
  have length := meets.length_delivered
  unfold run Concludes
  rw [Station.runAmid_bind runs]
  cases refusal : fate.refusal with
  | none =>
      rw [refusal] at told length
      subst told
      have noted := middle.handsOver_idle confirmations
        (rfl : (Sending.Request.note (completed pacer.pacing errand.plan progress)).launches = _)
      have counted : progress.sent = errand.plan.count := by
        rw [tells.counted refusal, UInt64.ofNat_toNat]
        exact UInt64.zero_add _
      refine ⟨fate, _, _, rfl, meets.before_idle noted, ?_⟩
      rw [refusal]
      exact ⟨congrArg Except.ok counted, length⟩
  | some refused =>
      rw [refusal] at told length
      subst told
      refine ⟨fate, _, _, rfl, meets, ?_⟩
      rw [refusal]
      exact ⟨rfl, length⟩

/-- From equal counters and over an equal link, which does not look at the stamps of stamped
messages, a delayed run ends as a catch-up run does that ends at all, whatever the clocks, the
delay and the confirmations. Both hand over the same messages up to send times. They deliver
all messages of the plan, or fail with the fault of the same refused message. If nothing is
confirmed meanwhile the counters end equal. -/
theorem delayed_run_agrees
    {confirmations : Confirmations}
    {linkName : String}
    {steps : Nat}
    {plan : Plan}
    {length : UInt64}
    {delay : Duration}
    {catchingUp delaying : Pacer}
    {first second : Station}
    (used : Used .catchUp length catchingUp)
    (alsoUsed : Used (.delayed delay) length delaying)
    (sameLink : second.link = first.link)
    (sameAttempts : second.attempts = first.attempts)
    (sameFlight : second.flight = first.flight)
    (blind : plan.timestamp = true ->
      forall attempt left right, Payload.Alike true left right ->
        first.link attempt left = first.link attempt right)
    (ends : (first.runAmid confirmations (catchingUp.run linkName steps plan)).1.isSome)
    (others : Confirmations)
    (otherName : String)
    (bound : Nat) :
    exists fate outcome after other otherOutcome last,
      first.runAmid confirmations (catchingUp.run linkName steps plan) = (some outcome, after) ∧
        second.runAmid others (delaying.run otherName bound plan) =
          (some otherOutcome, last) ∧
        after.handovers = first.handovers ++ fate.handovers ∧
        last.handovers = second.handovers ++ other.handovers ∧
        fate.Alike plan.timestamp other ∧
        Concludes plan .pacedLoop fate outcome.1 ∧
        Concludes plan .delayedLoop other otherOutcome.1 ∧
        (confirmations = .none -> others = .none -> after.flight = last.flight) := by
  obtain ⟨_, paced, filler⟩ := used.kept
  obtain ⟨_, delayed, sameFiller⟩ := alsoUsed.kept
  let errand : Errand := ⟨first.link, plan, catchingUp.buffer.filler⟩
  have unseeing : errand.Blind := by
    intro attempt left right alike
    change Payload.Alike plan.timestamp left right at alike
    cases stamped : plan.timestamp with
    | true => exact blind stamped attempt left right (stamped ▸ alike)
    | false => rw [alike.unstamped stamped]
  have catchesUp : errand.Carries .pacedLoop confirmations plan.count.toNat 0 first
      (catchingUp.loop linkName steps plan) := by
    have finishes := Station.isSome_of_bind ends
    unfold loop at finishes ⊢
    rw [paced] at finishes ⊢
    have ready : errand.Ready first ⟨0, 0, catchingUp.buffer⟩ := ⟨rfl, rfl⟩
    refine .ask rfl ready fun start later asked there => ?_
    obtain ⟨rfl, rfl⟩ := Prod.mk.inj asked
    exact carries_catchUpFrom unseeing linkName _ steps _ there (Nat.zero_add _) finishes
  have delays : errand.Carries .delayedLoop others plan.count.toNat 0 second
      (delaying.loop otherName bound plan) := by
    unfold loop
    rw [delayed]
    exact carries_delayedFrom others unseeing otherName delay _
      ⟨sameLink, sameFiller.trans filler.symm⟩
  obtain ⟨fate, outcome, after, runs, meets, concludes⟩ :=
    concludes_run linkName steps catchingUp catchesUp
  obtain ⟨other, otherOutcome, last, alsoRuns, alsoMeets, alsoConcludes⟩ :=
    concludes_run otherName bound delaying delays
  have planned := alsoMeets.planned
  rw [sameAttempts, sameFlight] at planned
  have alike : fate.Alike plan.timestamp other := meets.planned.join planned
  refine ⟨fate, outcome, after, other, otherOutcome, last, runs, alsoRuns,
    meets.handsOver.handovers, alsoMeets.handsOver.handovers, alike, concludes, alsoConcludes,
    fun alone alsoAlone => ?_⟩
  rw [meets.handsOver.flight alone, alsoMeets.handsOver.flight alsoAlone, sameFlight,
    alike.length_handovers]

/-- The second of three stamped messages is refused, in a burst of a catch-up run and in a
delayed run whose clock stands still. -/
theorem delayed_run_agrees_on_refused_message :
    let link := fun attempt (_ : Payload) =>
      if attempt = 1 then some TransportFault.disconnected else none
    let first := Station.start (fun reading => Word.clamp (reading * 400000000)) link .empty
    let second := Station.start (fun _ => 7) link .empty
    let buffer := Buffer.zeroed 24 (by decide)
    let caughtUp :=
      first.runAmid (fun _ _ => 1) (Pacer.run "loopback" 9 ⟨3, 5, true⟩ ⟨.catchUp, buffer, 0⟩)
    let delayed :=
      second.runAmid .none
        (Pacer.run "loopback" 0 ⟨3, 5, true⟩ ⟨.delayed (Duration.ofNanos 5), buffer, 0⟩)
    caughtUp.1.map Prod.fst =
        some (.error ((Failure.ofCause (.transport .disconnected)).within .pacedLoop)) ∧
      delayed.1.map Prod.fst =
        some (.error ((Failure.ofCause (.transport .disconnected)).within .delayedLoop)) ∧
      exists fate other : Fate,
        caughtUp.2.handovers = fate.handovers ∧ delayed.2.handovers = other.handovers ∧
          fate.Alike true other ∧ fate.handovers.length = 2 := by
  intro link first second buffer caughtUp delayed
  have used : Used .catchUp 24 ⟨.catchUp, buffer, 0⟩ := .created rfl
  have alsoUsed : Used (.delayed (Duration.ofNanos 5)) 24
      ⟨.delayed (Duration.ofNanos 5), buffer, 0⟩ := .created rfl
  have ends : caughtUp.1.isSome := by decide +kernel
  -- The equations are between values of fields, so that no clocks are compared.
  obtain ⟨fate, outcome, after, other, otherOutcome, last, runs, alsoRuns, handed, alsoHanded,
    alike, _⟩ :=
    delayed_run_agrees used alsoUsed
      (show second.link = first.link from (rfl : link = link))
      (show second.attempts = first.attempts from (rfl : 0 = 0))
      (show second.flight = first.flight from (rfl : Flight.empty = Flight.empty))
      (fun _ _ _ _ _ => rfl) ends .none "loopback" 0
  have handed : caughtUp.2.handovers = fate.handovers := by
    rw [show caughtUp.2 = after from congrArg Prod.snd runs]
    exact handed
  have alsoHanded : delayed.2.handovers = other.handovers := by
    rw [show delayed.2 = last from congrArg Prod.snd alsoRuns]
    exact alsoHanded
  have count : caughtUp.2.handovers.length = 2 := by decide +kernel
  refine ⟨?_, ?_, fate, other, handed, alsoHanded, alike, handed ▸ count⟩
  · decide +kernel
  · decide +kernel

/-- A link refuses stamped messages whose send time ends in a certain byte. A catch-up run and a
delayed run from equal counters over this link, each of one message, come to different ends,
since their clocks differ. -/
theorem delayed_run_differs_over_link_that_reads_stamps :
    let link := fun (_ : Nat) (message : Payload) =>
      if message[Header.stampOffset]? = some 9 then some TransportFault.disconnected else none
    let first := Station.start (fun _ => 7) link .empty
    let second := Station.start (fun _ => 9) link .empty
    let buffer := Buffer.zeroed 24 (by decide)
    let caughtUp :=
      first.runAmid .none (Pacer.run "loopback" 9 ⟨1, 5, true⟩ ⟨.catchUp, buffer, 0⟩)
    let delayed :=
      second.runAmid .none
        (Pacer.run "loopback" 9 ⟨1, 5, true⟩ ⟨.delayed (Duration.ofNanos 5), buffer, 0⟩)
    second.link = first.link ∧
      second.attempts = first.attempts ∧
      second.flight = first.flight ∧
      caughtUp.1.map Prod.fst = some (.ok 1) ∧
      delayed.1.map Prod.fst =
        some (.error ((Failure.ofCause (.transport .disconnected)).within .delayedLoop)) ∧
      ¬ exists fate other : Fate,
        caughtUp.2.handovers = fate.handovers ∧ delayed.2.handovers = other.handovers ∧
          fate.Alike true other := by
  intro link first second buffer caughtUp delayed
  have accepted : caughtUp.2.handovers.map Handover.fault = [none] := by decide +kernel
  have refused : delayed.2.handovers.map Handover.fault = [some .disconnected] := by
    decide +kernel
  refine ⟨rfl, rfl, rfl, ?_, ?_, ?_⟩
  · decide +kernel
  · decide +kernel
  · rintro ⟨fate, other, handed, alsoHanded, alike⟩
    have same := alike.faults_handovers
    rw [← handed, ← alsoHanded, accepted, refused] at same
    contradiction

end Pacer
end LatencyMeter

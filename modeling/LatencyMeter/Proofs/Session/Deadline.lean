import LatencyMeter.Proofs.Pacer.Termination
import LatencyMeter.Proofs.Session.Sufficiency

/-!
# Deadlines

A catch-up run ends if the clock comes to read the deadline of its plan, and polls the clock
forever if it does not. Without a rate the deadline of a second message never comes. Accepted
options have a rate wherever there is a second message, so the measurement is held up in none
of its plans by anything but the clock.
-/

namespace LatencyMeter

/-- A plan that can come to an end does so with any pacer, on a clock that reaches its
deadline. -/
theorem Plan.Feasible.ends
    {plan : Plan}
    (feasible : plan.Feasible)
    {station : Station}
    (willing : station.Willing)
    (forward : station.Forward)
    (reaches : station.Reaches plan)
    (confirmations : Confirmations)
    (linkName : String)
    (pacer : Pacer) :
    pacer.Ends confirmations linkName plan station := by
  cases paced : pacer.pacing with
  | delayed delay => exact Pacer.ends_of_delayed paced willing
  | catchUp =>
      by_cases still : plan.rate = 0
      · have single : plan.count = 1 := by
          refine feasible.rate.resolve_right fun rated => ?_
          rw [still] at rated
          contradiction
        exact Pacer.ends_of_rate_zero paced willing still (UInt64.le_of_eq single)
      · have rated : 1 ≤ plan.rate := by
          rw [UInt64.le_iff_toNat_le]
          exact Nat.one_le_iff_ne_zero.mpr fun zero => still (UInt64.toNat_inj.mp zero)
        exact Pacer.ends_of_reaches paced willing forward rated reaches

/-- Over a transport that refuses no message, a catch-up run with messages and a rate ends with
all of them on a clock that never goes back and comes to read the deadline, and never ends if
all readings stay below the deadline. Without a rate it ends for one message at most and never
for several, whatever the clock. A measurement with accepted options runs its plans and no
others, and with any pacer each of them ends on a clock that reaches its deadline. -/
theorem run_ends_exactly_as_clock_allows
    (confirmations : Confirmations)
    (linkName : String)
    (pacer : Pacer)
    (station : Station)
    (willing : station.Willing) :
    (pacer.pacing = .catchUp -> forall plan : Plan,
      (1 ≤ plan.count -> 1 ≤ plan.rate ->
        (station.Forward -> station.Reaches plan ->
          pacer.Ends confirmations linkName plan station) ∧
        ((forall reading, station.reads ≤ reading ->
            (station.clock reading).toNat < station.deadline plan) ->
          pacer.NeverEnds confirmations linkName plan station)) ∧
      (plan.rate = 0 ->
        (plan.count ≤ 1 -> pacer.Ends confirmations linkName plan station) ∧
        (2 ≤ plan.count -> pacer.NeverEnds confirmations linkName plan station))) ∧
    forall (options : PingOptions) (settings : PingSettings), options.settings = .ok settings ->
      (forall steps (run : PingSettings.Runner),
        (forall plan, plan ∈ settings.plans -> run plan = settings.runPlan steps plan) ->
          settings.sessionBy run = settings.session steps) ∧
      forall plan, plan ∈ settings.plans -> station.Forward -> station.Reaches plan ->
        pacer.Ends confirmations linkName plan station := by
  refine ⟨fun paced plan => ⟨fun messages rated => ⟨?_, ?_⟩, fun still => ⟨?_, ?_⟩⟩, ?_⟩
  · exact fun forward reaches => Pacer.ends_of_reaches paced willing forward rated reaches
  · exact fun early => Pacer.neverEnds_of_early paced willing messages early
  · exact fun few => Pacer.ends_of_rate_zero paced willing still few
  · exact fun several => Pacer.neverEnds_of_rate_zero paced willing still several
  · intro options settings accepted
    obtain ⟨acceptable, rfl⟩ := PingOptions.settings_eq_ok_iff.mp accepted
    refine ⟨fun steps run agree => ?_, fun plan planned forward reaches => ?_⟩
    · exact (PingSettings.sessionBy_congr_of_plans agree).trans
        (PingSettings.sessionBy_runPlan _ steps)
    · have feasible : plan.Feasible := acceptable.runnable.feasible planned
      exact feasible.ends willing forward reaches confirmations linkName pacer

/-- Three messages at two a second, on a clock that advances by 0.4 seconds from reading to
reading and on one that stands still. A measurement of as many plans as possible. -/
theorem runs_wait_for_their_deadlines :
    let clock := fun reading => Word.clamp (reading * 400000000)
    let ticking := Station.start clock (fun _ _ => none) .empty
    let stopped := Station.start (fun _ => 7) (fun _ _ => none) .empty
    let plan : Plan := ⟨3, 2, true⟩
    let pacer : Pacer := ⟨.catchUp, Buffer.zeroed 24 (by decide), 0⟩
    let address := SocketAddress.v4 Ipv4.unspecified 9
    let options : PingOptions :=
      { rate := 2, count := 3, length := 24, geometry := ⟨8, 1⟩, warmup := ⟨2, 1⟩,
        delay := none, senderCpu := none, receiverCpu := none, lingerMillis := 0,
        pause := Duration.ofNanos 0, dest := address, bind := address, interface := none,
        join := none, loopback := true, outputFile := none }
    ticking.Willing ∧ ticking.Forward ∧ stopped.Willing ∧
      pacer.Ends .none "loopback" plan ticking ∧
      pacer.NeverEnds .none "loopback" plan stopped ∧
      pacer.Ends .none "loopback" ⟨1, 0, true⟩ stopped ∧
      pacer.NeverEnds .none "loopback" ⟨2, 0, true⟩ ticking ∧
      exists settings,
        options.settings = .ok settings ∧
          settings.plans = [⟨1, 999999999, false⟩, ⟨1, 1, false⟩, plan] ∧
          forall planned, planned ∈ settings.plans ->
            pacer.Ends .none "loopback" planned ticking := by
  intro clock ticking stopped plan pacer address options
  have willing : ticking.Willing := fun _ _ => rfl
  have forward : ticking.Forward := Station.forward_of_ticks 400000000 rfl
  have alsoWilling : stopped.Willing := fun _ _ => rfl
  obtain ⟨paces, measures⟩ :=
    run_ends_exactly_as_clock_allows .none "loopback" pacer ticking willing
  obtain ⟨waits, _⟩ :=
    run_ends_exactly_as_clock_allows .none "loopback" pacer stopped alsoWilling
  have reaches : ticking.Reaches plan := ⟨3, Nat.zero_le 3, by decide +kernel⟩
  have atOnce : ticking.Reaches ⟨1, 999999999, false⟩ ∧ ticking.Reaches ⟨1, 1, false⟩ :=
    ⟨⟨0, Nat.le_refl 0, by decide +kernel⟩, ⟨0, Nat.le_refl 0, by decide +kernel⟩⟩
  have acceptable : options.Acceptable := (PingOptions.acceptable_iff options).mpr (by decide)
  have accepted : options.settings = .ok options.chosen :=
    PingOptions.settings_eq_ok_iff.mpr ⟨acceptable, rfl⟩
  have plans : options.chosen.plans = [⟨1, 999999999, false⟩, ⟨1, 1, false⟩, plan] := by
    decide +kernel
  refine ⟨willing, forward, alsoWilling, ?_, ?_, ?_, ?_, options.chosen, accepted, plans,
    fun planned member => ?_⟩
  · exact ((paces rfl plan).1 (by decide) (by decide)).1 forward reaches
  · refine ((waits rfl plan).1 (by decide) (by decide)).2 fun reading _ => ?_
    change 7 < stopped.deadline plan
    decide +kernel
  · exact ((waits rfl ⟨1, 0, true⟩).2 rfl).1 (by decide)
  · exact ((paces rfl ⟨2, 0, true⟩).2 rfl).2 (by decide)
  · refine (measures options options.chosen accepted).2 planned member forward ?_
    rw [plans] at member
    simp only [List.mem_cons, List.not_mem_nil, or_false] at member
    rcases member with rfl | rfl | rfl
    · exact atOnce.1
    · exact atOnce.2
    · exact reaches

end LatencyMeter

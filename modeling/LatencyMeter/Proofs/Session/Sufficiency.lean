import LatencyMeter.Proofs.Session.Desk
import LatencyMeter.Proofs.Settings.Acceptance

/-!
# Accepted options suffice

A plan can come to an end if it has a message and, unless it is a single one, a rate. To say
which plans a measurement runs, the measurement is written down once more with the runner of
its plans left open. Run by two runners that differ only at plans which cannot come to an end,
a measurement with accepted settings is the same program, so it runs no such plan.

Options are accepted exactly if they meet all requirements, and what they are accepted for
meets every condition that a part of the measurement puts on its settings.
-/

namespace LatencyMeter

/-- A plan can come to an end: it has a message, and a rate if there are several. -/
structure Plan.Feasible (plan : Plan) : Prop where
  count : 1 ≤ plan.count
  rate : plan.count = 1 ∨ 1 ≤ plan.rate

namespace PingSettings

open Session

/-- What runs the plans of a measurement with a pacer. -/
abbrev Runner := Plan -> Pacer -> Session (UInt64 × Pacer)

/-- The priming message by any runner. -/
def primeBy (settings : PingSettings) (run : Runner) (pacer : Pacer) : Session Pacer := do
  if 0 < settings.warmup.loops then
    note { level := .debug, message := "sending priming message", fields := [] }
    let (_, pacer) <- run primingPlan pacer
    return pacer
  else
    return pacer

/-- The warmup behind the priming message by any runner. -/
def warmUpBy (settings : PingSettings) (run : Runner) (pacer : Pacer) : Session Pacer := do
  if 1 < settings.warmup.loops then
    note
      { level := .debug
        message := "warming up"
        fields :=
          [ ("loops", wordText settings.warmupPlan.count),
            ("rate", wordText settings.warmup.rate) ] }
    let (_, pacer) <- run settings.warmupPlan pacer
    return pacer
  else
    return pacer

/-- The sending side of a measurement by any runner. -/
def sendAllBy (settings : PingSettings) (run : Runner) : Session Sent := do
  note
    { level := .info
      message := "ping transport ready"
      fields := [("transport", settings.path.text)] }
  let created <-
    ofExcept ((Pacer.create settings.pacing settings.length).mapError fun fault =>
      Failure.ofCause (.config fault))
  let primed <- settings.primeBy run created
  ofSending (Sending.wait settings.pause)
  let warm <- settings.warmUpBy run primed
  ask .resetSamples
  let start <- ofSending (Sending.readClock .schedule)
  let (count, pacer) <- run settings.measuredPlan warm
  let finish <- ofSending (Sending.readClock .schedule)
  if ¬ settings.linger.isZero then
    ofSending (Sending.wait settings.linger)
  within .closing do
    refuse (<- ask .close)
  return ⟨count, Word.minus finish start, pacer.largestBurst⟩

/-- A measurement by any runner. -/
def sessionBy (settings : PingSettings) (run : Runner) : Session PingResult := do
  print settings.parameters
  let histogram <- createHistogram settings.geometry
  match settings.senderCpu with
  | none => pure ()
  | some cpu => within (.bindingSender cpu) (bindThread cpu)
  settings.listen histogram
  let sent <- besideReceiver (settings.sendAllBy run)
  stopReceiver
  report sent

/-- A measurement runs its plans with its pacer. -/
theorem sessionBy_runPlan (settings : PingSettings) (steps : Nat) :
    settings.sessionBy (settings.runPlan steps) = settings.session steps := rfl

/-- Settings of which all plans can come to an end, if they are run. -/
structure Runnable (settings : PingSettings) : Prop where
  measured : settings.measuredPlan.Feasible
  warmup : 1 < settings.warmup.loops -> settings.warmupPlan.Feasible

variable {settings : PingSettings} {left right : Runner}

theorem primingPlan_feasible : primingPlan.Feasible := ⟨by decide, .inl rfl⟩

/-- The plans that a measurement runs, in order. -/
def plans (settings : PingSettings) : List Plan :=
  (if 0 < settings.warmup.loops then [primingPlan] else []) ++
    (if 1 < settings.warmup.loops then [settings.warmupPlan] else []) ++
    [settings.measuredPlan]

/-- Runners that agree on the plans of a measurement make the same measurement. -/
theorem sessionBy_congr_of_plans
    (agree : forall plan, plan ∈ settings.plans -> left plan = right plan) :
    settings.sessionBy left = settings.sessionBy right := by
  have primed : settings.primeBy left = settings.primeBy right := by
    funext pacer
    unfold primeBy
    split
    · next primes => rw [agree primingPlan (by simp [plans, primes])]
    · rfl
  have warmed : settings.warmUpBy left = settings.warmUpBy right := by
    funext pacer
    unfold warmUpBy
    split
    · next warms => rw [agree settings.warmupPlan (by simp [plans, warms])]
    · rfl
  have measured : left settings.measuredPlan = right settings.measuredPlan :=
    agree settings.measuredPlan (by simp [plans])
  unfold sessionBy sendAllBy
  rw [primed, warmed, measured]

/-- All plans of a measurement can come to an end, if its settings are runnable. -/
theorem Runnable.feasible
    (runnable : settings.Runnable)
    {plan : Plan}
    (planned : plan ∈ settings.plans) :
    plan.Feasible := by
  unfold plans at planned
  rcases List.mem_append.mp planned with warmup | measured
  · rcases List.mem_append.mp warmup with priming | further
    · split at priming
      · exact List.mem_singleton.mp priming ▸ primingPlan_feasible
      · exact absurd priming List.not_mem_nil
    · split at further
      · next warms => exact List.mem_singleton.mp further ▸ runnable.warmup warms
      · exact absurd further List.not_mem_nil
  · exact List.mem_singleton.mp measured ▸ runnable.measured

/-- Runners that agree on all plans which can come to an end make the same measurement. -/
theorem sessionBy_congr
    (runnable : settings.Runnable)
    (agree : forall plan, plan.Feasible -> left plan = right plan) :
    settings.sessionBy left = settings.sessionBy right :=
  sessionBy_congr_of_plans fun plan planned => agree plan (runnable.feasible planned)

end PingSettings

namespace PingOptions

variable {options : PingOptions}

/-- The plans of a measurement with acceptable options can come to an end. -/
theorem Acceptable.runnable (acceptable : options.Acceptable) : options.chosen.Runnable where
  measured := by
    refine ⟨UInt64.le_iff_toNat_le.mpr ?_, .inr (UInt64.le_iff_toNat_le.mpr ?_)⟩
    · exact UInt64.lt_iff_toNat_lt.mp acceptable.count
    · exact UInt64.lt_iff_toNat_lt.mp acceptable.rate
  warmup warms := by
    have few : ¬ options.warmup.loops ≤ 1 := UInt64.not_le.mpr warms
    have more : (options.warmup.loops - 1).toNat = options.warmup.loops.toNat - 1 :=
      UInt64.toNat_sub_of_le _ _ (UInt64.le_of_lt warms)
    have several : 1 < options.warmup.loops.toNat := UInt64.lt_iff_toNat_lt.mp warms
    refine ⟨UInt64.le_iff_toNat_le.mpr ?_, .inr (UInt64.le_iff_toNat_le.mpr ?_)⟩
    · change 1 ≤ (options.warmup.loops - 1).toNat
      omega
    · exact UInt64.lt_iff_toNat_lt.mp (acceptable.warmup.resolve_left few)

/-- Options are accepted exactly if they can be used, and are otherwise refused with the fault
of the first requirement that they miss. With the settings they are accepted for a histogram
can be made and a pacer has room for its messages. Whatever the requests of the measurement are
answered with, every header is encoded with success and no failure is due to the settings. And
the measurement runs no plan that cannot come to an end: it is the same with any runner that
agrees with its own on those that can. -/
theorem checks_are_exact_and_suffice (options : PingOptions) :
    ((exists settings, options.settings = .ok settings) ↔ options.Acceptable) ∧
      (forall fault, options.settings = .error fault ↔
        Requirement.firstMissed options.requirements = some fault) ∧
      forall settings, options.settings = .ok settings ->
        (forall count width,
          Histogram.create settings.geometry ≠ .error (.invalidGeometry count width)) ∧
        (forall pacing, exists pacer, Pacer.create pacing settings.length = .ok pacer) ∧
        forall steps,
          Desk.protocol.Follows
              (Protocol.Outcome (fun _ _ => True) fun _ failure => ¬ failure.BlamesSettings)
              (Desk.cleared settings) (settings.session steps).run ∧
            forall run : PingSettings.Runner,
              (forall plan, plan.Feasible -> run plan = settings.runPlan steps plan) ->
              settings.sessionBy run = settings.session steps := by
  refine ⟨?_, fun _ => settings_eq_error_iff, ?_⟩
  · constructor
    · rintro ⟨settings, accepted⟩
      exact (settings_eq_ok_iff.mp accepted).1
    · intro acceptable
      exact ⟨_, settings_eq_ok_iff.mpr ⟨acceptable, rfl⟩⟩
  · intro settings accepted
    have usable := usable_of_accepted accepted
    refine ⟨?_, ?_, ?_⟩
    · intro count width invalid
      obtain ⟨histogram, created⟩ := usable.histogram
      rw [created] at invalid
      contradiction
    · intro pacing
      exact ⟨⟨pacing, Buffer.zeroed settings.length.toNat usable.length, 0⟩,
        dif_pos usable.length⟩
    · intro steps
      refine ⟨Desk.follows_session usable steps, fun run agree => ?_⟩
      obtain ⟨acceptable, rfl⟩ := settings_eq_ok_iff.mp accepted
      exact (PingSettings.sessionBy_congr acceptable.runnable agree).trans
        (PingSettings.sessionBy_runPlan _ steps)

/-- Options that meet all requirements at their limits are accepted, and their measurement may
begin; with a shorter message and a core too many, the message is what is refused. -/
theorem checks_at_the_limits :
    let address := SocketAddress.v4 Ipv4.unspecified 9
    let options : PingOptions :=
      { rate := 1, count := 1, length := 20, geometry := ⟨268435456, 1⟩, warmup := ⟨2, 1⟩,
        delay := none, senderCpu := some 1023, receiverCpu := none, lingerMillis := 0,
        pause := Duration.ofNanos 0, dest := address, bind := address, interface := none,
        join := none, loopback := true, outputFile := none }
    (exists settings,
      options.settings = .ok settings ∧
        (exists pacer, Pacer.create settings.pacing settings.length = .ok pacer) ∧
        Desk.protocol.Follows
          (Protocol.Outcome (fun _ _ => True) fun _ failure => ¬ failure.BlamesSettings)
          (Desk.cleared settings) (settings.session 3).run) ∧
      { options with length := 19, receiverCpu := some 1024 }.settings =
        .error (.messageTooShort 19 20) := by
  intro address options
  obtain ⟨accepted, _, sufficient⟩ := checks_are_exact_and_suffice options
  have acceptable : options.Acceptable := (acceptable_iff options).mpr (by decide)
  obtain ⟨settings, chosen⟩ := accepted.mpr acceptable
  obtain ⟨_, pacer, runs⟩ := sufficient settings chosen
  refine ⟨⟨settings, chosen, pacer settings.pacing, (runs 3).1⟩, ?_⟩
  exact ((checks_are_exact_and_suffice
    { options with length := 19, receiverCpu := some 1024 }).2.1 _).mpr (by decide)

end PingOptions
end LatencyMeter

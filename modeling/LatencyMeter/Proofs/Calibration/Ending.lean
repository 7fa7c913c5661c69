import LatencyMeter.Proofs.Calibration
import Mathlib.Data.Nat.Find
import Mathlib.Tactic.Push

/-!
# How a calibration ends

A calibration ends in one of four ways: no core could be bound, the workload failed on a core
that was bound, the best core was refused when it was bound once more, or it was bound for
good. Whoever refuses a core may give any reason, which is reported only if the core is the
best one, and then as it was given. `Machine.Ending` says for each way what the machine answers
to bring it about, what comes of the calibration and what has happened by then. No two of them
report the same, so the failure of a calibration tells how it went.
-/

namespace LatencyMeter

/-- A failure that has passed a stage tells both the stage and the failure inside it. -/
theorem Failure.within_inj
    {inner other : Failure}
    {stage next : Stage} :
    inner.within stage = other.within next ↔ stage = next ∧ inner = other := by
  cases inner
  cases other
  simp [within, and_assoc]

/-- A failure that has passed no stage is not one that has passed a stage. -/
theorem Failure.ofCause_ne_within
    (cause : Cause)
    (inner : Failure)
    (stage : Stage) :
    ofCause cause ≠ inner.within stage := by
  simp [ofCause, within]

namespace Calibration
namespace Machine

/-- The first core of a sweep on which the workload fails, with the failure of the workload. -/
structure FailsOn (machine : Machine) (length core : Nat) (own : Failure) : Prop where
  bound : core < machine.reach length
  works : forall earlier, earlier < core -> machine.workOn earlier = .ok (machine.score earlier)
  fails : machine.workOn core = .error own

/-- A sweep comes to its end with at least one core probed, and this is the first core on which
most work was done. -/
structure Chooses (machine : Machine) (length best : Nat) : Prop where
  works : forall core, core < machine.reach length ->
    machine.workOn core = .ok (machine.score core)
  best : IsLeast
    {core | core < machine.reach length ∧
      forall other, other < machine.reach length -> machine.score other ≤ machine.score core}
    best

/-- The failure of a calibration that could bind no core. -/
def unbound : Failure := Failure.ofCause (.affinity .noBindableCore)

/-- The failure of a calibration whose best core was refused in the end, with this fault. -/
def refusedBest (fault : AffinityFault) : Failure :=
  (Failure.ofCause (.affinity fault)).within .rebind

/-- What comes of a calibration that sweeps up to a number of cores, and what has happened. -/
inductive Ending (machine : Machine) (length : Nat) :
    Except Failure Calibration -> List Event -> Prop
  | unbound
      (none : machine.reach length = 0) :
      machine.Ending length (.error unbound) (machine.sweptAll length)
  | failed
      (core : Nat)
      (own : Failure)
      (fails : machine.FailsOn length core own) :
      machine.Ending length (.error (own.within (.probeOnCore (UInt64.ofNat core))))
        (machine.swept (core + 1))
  | refused
      (best : Nat)
      (chooses : machine.Chooses length best)
      (fault : AffinityFault)
      (refuses : machine.refusal (machine.sweptAll length) (UInt64.ofNat best) = some fault) :
      machine.Ending length (.error (refusedBest fault))
        (machine.sweptAll length ++ [.bound (UInt64.ofNat best) (some fault)])
  | settled
      (best : Nat)
      (chooses : machine.Chooses length best)
      (accepts : machine.accepts (machine.sweptAll length) (UInt64.ofNat best) = true) :
      machine.Ending length
        (.ok ⟨UInt64.ofNat best, machine.probes (machine.reach length)⟩)
        (machine.sweptAll length ++ [.bound (UInt64.ofNat best) none])

variable {machine : Machine} {length : Nat}

/-! ## What the machine answers -/

theorem workOn_eq_score
    {core : Nat}
    {sends : UInt64}
    (works : machine.workOn core = .ok sends) :
    machine.workOn core = .ok (machine.score core) := by
  rw [score, works]
  rfl

/-- On some core of a sweep the workload fails first, or it fails on none of them. -/
theorem failsOn_or_works (machine : Machine) (length : Nat) :
    (exists core own, machine.FailsOn length core own) ∨
      forall core, core < machine.reach length ->
        machine.workOn core = .ok (machine.score core) := by
  by_cases works : forall core, core < machine.reach length ->
      machine.workOn core = .ok (machine.score core)
  · exact .inr works
  · push Not at works
    obtain ⟨bound, notWorking⟩ := Nat.find_spec works
    have earlierWorks (earlier : Nat) (before : earlier < Nat.find works) :
        machine.workOn earlier = .ok (machine.score earlier) := by
      by_contra fails
      exact Nat.find_min works before ⟨before.trans bound, fails⟩
    cases result : machine.workOn (Nat.find works) with
    | ok sends => exact absurd (workOn_eq_score result) notWorking
    | error own => exact .inl ⟨_, own, bound, earlierWorks, result⟩

/-- Only one core is the first on which the workload fails. -/
theorem FailsOn.unique
    {core other : Nat}
    {own others : Failure}
    (fails : machine.FailsOn length core own)
    (failsToo : machine.FailsOn length other others) :
    core = other ∧ own = others := by
  have same : core = other := by
    rcases Nat.lt_trichotomy core other with before | same | behind
    · exact absurd (fails.fails.symm.trans (failsToo.works core before)) (by simp)
    · exact same
    · exact absurd (failsToo.fails.symm.trans (fails.works other behind)) (by simp)
  subst same
  exact ⟨rfl, Except.error.inj (fails.fails.symm.trans failsToo.fails)⟩

/-- A sweep that comes to its end has met no failure. -/
theorem Chooses.not_failsOn
    {best core : Nat}
    {own : Failure}
    (chooses : machine.Chooses length best)
    (fails : machine.FailsOn length core own) :
    False :=
  absurd (fails.fails.symm.trans (chooses.works core fails.bound)) (by simp)

theorem Chooses.positive {best : Nat} (chooses : machine.Chooses length best) :
    0 < machine.reach length :=
  Nat.zero_lt_of_lt chooses.best.1.1

/-- A sweep binds no core exactly if it has none to try or the first one is refused. -/
theorem reach_eq_zero_iff (machine : Machine) (length : Nat) :
    machine.reach length = 0 ↔ length = 0 ∨ machine.accepts [] 0 = false := by
  obtain ⟨within, accepted, refused⟩ := machine.reaches_reach length
  constructor
  · intro none
    rcases Nat.eq_zero_or_pos length with rfl | some
    · exact .inl rfl
    · rw [none] at refused
      exact .inr (refused some)
  · rintro (rfl | first)
    · exact Nat.le_zero.mp within
    · by_contra some
      exact absurd (accepted 0 (Nat.pos_of_ne_zero some)) (by simp [admits, swept, first])

/-! ## How it ends -/

/-- A core that is bound and on which the workload fails ends the sweep and the calibration. -/
theorem run_sweepFrom_of_failed
    {core : Nat}
    (admits : machine.admits core = true)
    {own : Failure}
    (fails : machine.workOn core = .error own)
    (remaining : Nat)
    (progress : Progress) :
    machine.run (machine.swept core)
        (sweepFrom (remaining + 1) (UInt64.ofNat core) progress) =
      (some (.error (own.within (.probeOnCore (UInt64.ofNat core)))),
        machine.swept (core + 1)) := by
  have fails : machine.work (machine.swept core ++ [.bound (UInt64.ofNat core) none])
      (UInt64.ofNat core) = .error own := fails
  rw [sweepFrom, run_bindTo, accepts_iff.mp admits]
  dsimp only
  rw [run_probeOn, fails, swept, fails]
  rfl

/-- From any core before it, a sweep goes on to the first core on which the workload fails. -/
theorem FailsOn.run_sweepFrom
    {failing : Nat}
    {own : Failure}
    (fails : machine.FailsOn length failing own)
    {core remaining : Nat}
    (place : core + remaining = length)
    (reached : core ≤ failing) :
    machine.run (machine.swept core)
        (sweepFrom remaining (UInt64.ofNat core) (machine.progress core)) =
      (some (.error (own.within (.probeOnCore (UInt64.ofNat failing)))),
        machine.swept (failing + 1)) := by
  obtain ⟨within, accepted, _⟩ := machine.reaches_reach length
  have bound := fails.bound
  induction remaining generalizing core with
  | zero => omega
  | succ remaining hypothesis =>
      rcases Nat.lt_or_eq_of_le reached with before | rfl
      · rw [run_sweepFrom_of_probed (accepted core (before.trans bound))
          (fails.works core before), ← progress_succ]
        exact hypothesis (by omega) before
      · exact run_sweepFrom_of_failed (accepted core bound) fails.fails remaining _

theorem FailsOn.run
    {limit : Option UInt64}
    {core : Nat}
    {own : Failure}
    (fails : machine.FailsOn (coreLimit limit) core own) :
    machine.run [] (Calibration.run limit) =
      (some (.error (own.within (.probeOnCore (UInt64.ofNat core)))),
        machine.swept (core + 1)) := by
  have sweeps := fails.run_sweepFrom (Nat.zero_add (coreLimit limit)) (Nat.zero_le core)
  have swept : Program.run machine.answer (sweepFrom (coreLimit limit) 0 ⟨[], none⟩) [] =
      (some (.error (own.within (.probeOnCore (UInt64.ofNat core)))),
        machine.swept (core + 1)) := sweeps
  unfold Calibration.run Machine.run
  rw [Program.run_bind, swept]
  rfl

theorem run_settle_of_refused
    {best : CoreProbe}
    {progress : Progress}
    (chosen : progress.best = some best)
    {history : List Event}
    {fault : AffinityFault}
    (refuses : machine.refusal history best.core = some fault) :
    machine.run history (settle progress) =
      (some (.error (refusedBest fault)), history ++ [.bound best.core (some fault)]) := by
  rw [settle, chosen]
  dsimp only
  rw [run_bindTo, refuses]
  rfl

/-- Every calibration ends, in one of the four ways. -/
theorem exists_ending (machine : Machine) (limit : Option UInt64) :
    exists result history,
      machine.run [] (Calibration.run limit) = (some result, history) ∧
        machine.Ending (coreLimit limit) result history := by
  rcases machine.failsOn_or_works (coreLimit limit) with ⟨core, own, fails⟩ | works
  · exact ⟨_, _, fails.run, .failed core own fails⟩
  rcases Nat.eq_zero_or_pos (machine.reach (coreLimit limit)) with none | some
  · refine ⟨_, _, ?_, .unbound none⟩
    rw [run_eq_settle limit works, none]
    rfl
  · obtain ⟨best, least, chosen⟩ := machine.exists_best some
    have chooses : machine.Chooses (coreLimit limit) best := ⟨works, least⟩
    rw [run_eq_settle limit works]
    cases answer : machine.refusal (machine.sweptAll (coreLimit limit)) (UInt64.ofNat best) with
    | some fault =>
        exact ⟨_, _, run_settle_of_refused chosen answer, .refused best chooses fault answer⟩
    | none =>
        have accepts := accepts_iff.mpr answer
        exact ⟨_, _, run_settle chosen accepts, .settled best chooses accepts⟩

/-! ## What a failure tells -/

theorem coreLimit_le (limit : Option UInt64) : coreLimit limit ≤ 64 := by
  cases limit with
  | none => exact Nat.le_refl 64
  | some limit => exact Nat.min_le_right limit.toNat 64

/-- The cores that a sweep reaches are words. -/
theorem toNat_ofNat_of_lt_reach
    (few : length ≤ 64)
    {core : Nat}
    (reached : core < machine.reach length) :
    (UInt64.ofNat core).toNat = core := by
  have within := (machine.reaches_reach length).within
  have fits : core < 2 ^ 64 := by omega
  exact UInt64.toNat_ofNat_of_lt' fits

namespace Ending

variable {result : Except Failure Calibration} {history : List Event}

/-- A calibration fails for want of a core exactly if it has none to try or the first one is
refused. -/
theorem eq_unbound_iff (ending : machine.Ending length result history) :
    result = .error Machine.unbound ↔ length = 0 ∨ machine.accepts [] 0 = false := by
  rw [← reach_eq_zero_iff]
  cases ending with
  | unbound none => exact iff_of_true rfl none
  | failed core own fails =>
      refine iff_of_false ?_ (Nat.ne_zero_of_lt fails.bound)
      intro same
      exact Failure.ofCause_ne_within _ _ _ (Except.error.inj same).symm
  | refused best chooses fault refuses =>
      refine iff_of_false ?_ chooses.positive.ne'
      intro same
      exact Failure.ofCause_ne_within _ _ _ (Except.error.inj same).symm
  | settled best chooses accepts =>
      exact iff_of_false (by simp) chooses.positive.ne'

/-- Without a core nothing has happened but an attempt to bind the first one. -/
theorem of_eq_unbound
    (ending : machine.Ending length result history)
    (fails : result = .error Machine.unbound) :
    (history.filterMap Event.attempt?).length ≤ 1 ∧ history.filterMap Event.probe? = [] := by
  have none := (machine.reach_eq_zero_iff length).mpr (ending.eq_unbound_iff.mp fails)
  cases ending with
  | unbound =>
      rw [sweptAll, none]
      split <;> simp [swept, Event.attempt?, Event.probe?]
  | failed core own failing => exact absurd failing.bound (by omega)
  | refused best chooses fault refuses => exact absurd chooses.positive (by omega)
  | settled best chooses accepts => exact absurd chooses.positive (by omega)

/-- A calibration fails with the failure of the workload exactly if this is what the workload
comes to on a core that is bound, after it has worked on all cores before. -/
theorem eq_within_probeOnCore_iff
    (ending : machine.Ending length result history)
    (few : length ≤ 64)
    (core : UInt64)
    (own : Failure) :
    result = .error (own.within (.probeOnCore core)) ↔
      machine.FailsOn length core.toNat own := by
  cases ending with
  | unbound none =>
      refine iff_of_false ?_ fun fails => absurd fails.bound (by omega)
      intro same
      exact Failure.ofCause_ne_within _ _ _ (Except.error.inj same)
  | failed failing others fails =>
      have word := toNat_ofNat_of_lt_reach few fails.bound
      rw [Except.error.injEq, Failure.within_inj, Stage.probeOnCore.injEq]
      constructor
      · rintro ⟨rfl, rfl⟩
        rwa [word]
      · intro failsToo
        obtain ⟨rfl, rfl⟩ := fails.unique failsToo
        exact ⟨UInt64.ofNat_toNat, rfl⟩
  | refused best chooses fault refuses =>
      refine iff_of_false ?_ chooses.not_failsOn
      intro same
      exact absurd (Failure.within_inj.mp (Except.error.inj same)).1 (by simp)
  | settled best chooses accepts =>
      exact iff_of_false (by simp) chooses.not_failsOn

/-- When the workload has failed on a core, the cores up to this one were bound and probed,
each of them once, and nothing else was. -/
theorem of_eq_within_probeOnCore
    (ending : machine.Ending length result history)
    (few : length ≤ 64)
    {core : UInt64}
    {own : Failure}
    (fails : result = .error (own.within (.probeOnCore core))) :
    history.filterMap Event.attempt? = (List.range (core.toNat + 1)).map UInt64.ofNat ∧
      history.filterMap Event.probe? =
        (List.range core.toNat).map (fun earlier =>
          (UInt64.ofNat earlier, .ok (machine.score earlier))) ++ [(core, .error own)] := by
  have failing := (ending.eq_within_probeOnCore_iff few core own).mp fails
  cases ending with
  | unbound none => exact absurd failing.bound (by omega)
  | refused best chooses fault refuses => exact (chooses.not_failsOn failing).elim
  | settled best chooses accepts => exact (chooses.not_failsOn failing).elim
  | failed failingToo others failsToo =>
      obtain ⟨rfl, rfl⟩ := failing.unique failsToo
      refine ⟨attempts_swept machine _, ?_⟩
      have worksNot := failing.fails
      rw [workOn] at worksNot
      rw [swept, List.filterMap_append, List.filterMap_append, probes_swept failing.works,
        worksNot]
      simp [Event.probe?]

/-- A calibration fails because its best core is refused, with the fault of this refusal, exactly
if the sweep comes to its end, this core is the best one, and the machine refuses it with this
fault when it is bound once more. -/
theorem eq_refusedBest_iff
    (ending : machine.Ending length result history)
    (fault : AffinityFault) :
    result = .error (refusedBest fault) ↔
      exists best, machine.Chooses length best ∧
        machine.refusal (machine.sweptAll length) (UInt64.ofNat best) = some fault := by
  cases ending with
  | unbound none =>
      refine iff_of_false ?_ fun ⟨_, chooses, _⟩ => absurd chooses.positive (by omega)
      intro same
      exact Failure.ofCause_ne_within _ _ _ (Except.error.inj same)
  | failed core own fails =>
      refine iff_of_false ?_ fun ⟨_, chooses, _⟩ => chooses.not_failsOn fails
      intro same
      exact absurd (Failure.within_inj.mp (Except.error.inj same)).1 (by simp)
  | refused chosen chooses own refuses =>
      constructor
      · intro same
        obtain rfl : own = fault := by
          simpa [refusedBest, Failure.within, Failure.ofCause] using same
        exact ⟨chosen, chooses, refuses⟩
      · rintro ⟨best, choosesToo, refusesToo⟩
        rw [← chooses.best.unique choosesToo.best, refuses] at refusesToo
        rw [Option.some.inj refusesToo]
  | settled chosen chooses accepts =>
      refine iff_of_false (by simp) ?_
      rintro ⟨best, choosesToo, refuses⟩
      rw [← chooses.best.unique choosesToo.best, accepts_iff.mp accepts] at refuses
      contradiction

/-- A calibration that succeeds has found its best core and bound it, whether its sweep ended
with a refusal or with the last core. -/
theorem eq_ok_iff (ending : machine.Ending length result history) :
    (exists calibration, result = .ok calibration) ↔
      exists best, machine.Chooses length best ∧
        machine.accepts (machine.sweptAll length) (UInt64.ofNat best) = true := by
  cases ending with
  | unbound none =>
      exact iff_of_false (by simp) fun ⟨_, chooses, _⟩ => absurd chooses.positive (by omega)
  | failed core own fails =>
      exact iff_of_false (by simp) fun ⟨_, chooses, _⟩ => chooses.not_failsOn fails
  | refused best chooses fault refuses =>
      refine iff_of_false (by simp) ?_
      rintro ⟨other, choosesToo, accepts⟩
      rw [← chooses.best.unique choosesToo.best, accepts_eq_false_iff.mpr ⟨fault, refuses⟩] at accepts
      contradiction
  | settled best chooses accepts => exact iff_of_true ⟨_, rfl⟩ ⟨best, chooses, accepts⟩

/-- There is no failure of another kind. -/
theorem failure_cases
    {failure : Failure}
    (ending : machine.Ending length (.error failure) history) :
    failure = Machine.unbound ∨
      (exists core, exists own : Failure, failure = own.within (.probeOnCore core)) ∨
      exists fault, failure = refusedBest fault := by
  cases ending with
  | unbound none => exact .inl rfl
  | failed core own fails => exact .inr (.inl ⟨_, own, rfl⟩)
  | refused best chooses fault refuses => exact .inr (.inr ⟨_, rfl⟩)

end Ending

/-- A calibration fails in three ways and in no other, each of them under one condition on what
the machine answers. It has no core to try or is refused the first one, and then it has made no
other attempt and no probe. Or the workload fails on a core that is bound, and then the cores
up to this one were bound and probed and nothing else was. Or it has come to the end of its
sweep with a core probed and is refused the best one when it binds it once more, and then it
fails with the fault of this refusal. If instead the best core is bound, it succeeds, and it does
not matter whether a core of the sweep was refused. -/
theorem fails_in_three_ways (machine : Machine) (limit : Option UInt64) :
    let length := limit.elim 64 fun limit => min limit.toNat 64
    exists result history,
      machine.run [] (Calibration.run limit) = (some result, history) ∧
        (result = .error unbound ↔ length = 0 ∨ machine.accepts [] 0 = false) ∧
        (result = .error unbound ->
          (history.filterMap Event.attempt?).length ≤ 1 ∧
            history.filterMap Event.probe? = []) ∧
        (forall core own,
          (result = .error (own.within (.probeOnCore core)) ↔
            machine.FailsOn length core.toNat own) ∧
          (result = .error (own.within (.probeOnCore core)) ->
            history.filterMap Event.attempt? = (List.range (core.toNat + 1)).map UInt64.ofNat ∧
              history.filterMap Event.probe? =
                (List.range core.toNat).map (fun earlier =>
                  (UInt64.ofNat earlier, .ok (machine.score earlier))) ++
                    [(core, .error own)])) ∧
        (forall fault,
          result = .error (refusedBest fault) ↔
            exists best, machine.Chooses length best ∧
              machine.refusal (machine.sweptAll length) (UInt64.ofNat best) = some fault) ∧
        (forall failure, result = .error failure ->
          failure = unbound ∨
            (exists core, exists own : Failure, failure = own.within (.probeOnCore core)) ∨
            exists fault, failure = refusedBest fault) ∧
        ((exists calibration, result = .ok calibration) ↔
          exists best, machine.Chooses length best ∧
            machine.accepts (machine.sweptAll length) (UInt64.ofNat best) = true) := by
  intro length
  obtain ⟨result, history, ran, ending⟩ := machine.exists_ending limit
  have limited : coreLimit limit = length := by cases limit <;> rfl
  have few := coreLimit_le limit
  rw [limited] at ending few
  refine ⟨result, history, ran, ending.eq_unbound_iff, ending.of_eq_unbound, fun core own => ?_,
    ending.eq_refusedBest_iff, ?_, ending.eq_ok_iff⟩
  · exact ⟨ending.eq_within_probeOnCore_iff few core own, ending.of_eq_within_probeOnCore few⟩
  · rintro failure rfl
    exact ending.failure_cases

end Machine
end Calibration
end LatencyMeter

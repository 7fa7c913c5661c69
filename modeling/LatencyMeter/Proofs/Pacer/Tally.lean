import LatencyMeter.Proofs.Pacer.CatchUp
import LatencyMeter.Proofs.Pacer.Filler
import LatencyMeter.Proofs.Schedule

/-!
# What the catch-up loop knows about what has happened

The variables of the loop are a tally of its trace: how many messages were sent, how often
the clock was read and for what, and what the latest reading was. Every step keeps the
tally right, so it is right at the end of every run.
-/

namespace LatencyMeter
namespace Pacer
namespace CatchUp

/-- The point keeps the tally of a run that began at a station with a buffer. -/
structure Tally
    (confirmations : Confirmations)
    (plan : Plan)
    (station : Station)
    (buffer : Buffer)
    (point : Point) : Prop where
  leads : Station.Leads confirmations station point.trace point.progress.sent.toNat
    point.station
  begins : exists rest,
    point.trace = .read .schedule (station.clock station.reads) :: rest
  latest : point.trace.polls.getLast? = some point.now
  accepted : point.trace.accepted.length = point.progress.sent.toNat
  attempts : point.trace.attempts = point.progress.sent.toNat
  polls : point.trace.polls.length + (if point.looked then 1 else 0) = 1 + point.iterations
  readings : point.trace.readings.length =
    point.trace.polls.length + if plan.timestamp then point.progress.sent.toNat else 0
  within : point.progress.sent.toNat ≤ plan.count.toNat
  filler : point.progress.buffer.filler = buffer.filler

section Tallies

variable {confirmations : Confirmations} {plan : Plan} {station : Station} {buffer : Buffer}

theorem tally_outset
    {origin : Station}
    (leads : Station.Leads confirmations station
      [.read .schedule (station.clock station.reads)] 0 origin) :
    Tally confirmations plan station buffer
      (outset origin (station.clock station.reads) buffer) where
  leads := leads
  begins := ⟨[], rfl⟩
  latest := rfl
  accepted := rfl
  attempts := rfl
  polls := rfl
  readings := by
    cases plan.timestamp <;> rfl
  within := Nat.zero_le _
  filler := rfl

theorem Tally.step
    {start : UInt64}
    {point next : Point}
    (tally : Tally confirmations plan station buffer point)
    (step : Step confirmations plan start point next) :
    Tally confirmations plan station buffer next := by
  obtain ⟨rest, begins⟩ := tally.begins
  have polls := tally.polls
  cases step with
  | look idle left =>
      rw [if_neg (by simp [idle])] at polls
      exact
        { leads := tally.leads
          begins := tally.begins
          latest := tally.latest
          accepted := tally.accepted
          attempts := tally.attempts
          polls := by
            rw [if_pos rfl]
            change point.trace.polls.length + 1 = 1 + (point.iterations + 1)
            omega
          readings := tally.readings
          within := tally.within
          filler := tally.filler }
  | launch looked missing accepts leads =>
      have counted : (point.launched plan).sent.toNat = point.progress.sent.toNat + 1 :=
        Word.toNat_succ_of_lt missing
      have due : point.progress.sent.toNat < plan.count.toNat :=
        ((Schedule.lt_due_iff _ _ _ _).mp (UInt64.lt_iff_toNat_lt.mp missing)).1
      exact
        { leads := by
            rw [counted]
            exact tally.leads.trans leads
          begins := ⟨_, by rw [begins, List.cons_append]⟩
          latest := by simpa [Point.launching] using tally.latest
          accepted := by simp [Point.launching, tally.accepted, counted]
          attempts := by simp [Point.launching, tally.attempts, counted]
          polls := by simpa [Point.launching] using polls
          readings := by
            have readings := tally.readings
            rw [counted]
            cases stamps : plan.timestamp <;> simp [Point.launching, stamps] at readings ⊢ <;>
              omega
          within := by
            rw [counted]
            exact due
          filler := by
            rw [← tally.filler]
            exact point.progress.buffer.filler_write _ }
  | poll looked caughtUp leads =>
      rw [if_pos looked] at polls
      exact
        { leads := tally.leads.trans leads
          begins := ⟨_, by rw [begins, List.cons_append]⟩
          latest := by simp
          accepted := by simpa using tally.accepted
          attempts := by simpa using tally.attempts
          polls := by simpa using polls
          readings := by
            have readings := tally.readings
            simp
            omega
          within := tally.within
          filler := tally.filler }

/-- The tally is right wherever a run passes through. -/
theorem Reached.tally
    {point : Point}
    (reached : Reached confirmations plan station buffer point) :
    Tally confirmations plan station buffer point := by
  obtain ⟨origin, leads, passes⟩ := reached
  induction passes with
  | refl => exact tally_outset leads
  | tail _ step hypothesis => exact hypothesis.step step

end Tallies

/-- Where the transport refuses no message, a run is cut off between two iterations or
sends all messages. -/
theorem Run.ends_of_willing
    {confirmations : Confirmations}
    {linkName : String}
    {steps : Nat}
    {plan : Plan}
    {pacer : Pacer}
    {station ended after : Station}
    {last : Point}
    {outcome : Option (Option Failure × Progress)}
    (willing : station.Willing)
    (run : Run confirmations linkName steps plan pacer station last outcome ended after) :
    Station.Leads confirmations station last.trace last.progress.sent.toNat after ∧
      last.looked = false ∧
      (outcome = none ∧ last.progress.sent < plan.count ∨
        outcome = some (none, last.progress) ∧ last.progress.sent = plan.count) := by
  have tally := run.reached.tally
  have concludes := run.concludes
  cases run.ends with
  | cutOff idle left =>
      refine ⟨?_, idle, .inl ⟨rfl, left⟩⟩
      simpa using tally.leads.trans concludes
  | finished idle complete =>
      have all : last.progress.sent = plan.count :=
        UInt64.le_antisymm (UInt64.le_iff_toNat_le.mpr tally.within)
          (UInt64.not_lt.mp complete)
      refine ⟨?_, idle, .inr ⟨rfl, all⟩⟩
      simpa using tally.leads.trans concludes
  | refused refusal =>
      have refuses := refusal.refuses
      rw [tally.leads.link, willing] at refuses
      contradiction

end CatchUp
end Pacer
end LatencyMeter

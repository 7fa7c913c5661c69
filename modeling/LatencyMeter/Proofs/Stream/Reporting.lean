import LatencyMeter.Proofs.Reflector.Echoing
import LatencyMeter.Proofs.RoundTrip.Accounting
import Mathlib.Data.List.Forall2

/-!
# What reporting cannot touch

A receive thread binds itself to a core and writes lines beside its work, and any bind and any
write may be refused. Two handlers of a stream that differ in their reporters only, be it in the
core they ask for, in the cores they get or in the lines they get rid of, are alike. They are
alike after every event, because an event is handled by what it says and by what the handler
keeps apart from its reporter.
-/

namespace LatencyMeter

/-- Two runs over the same inputs stay related after every input if each step keeps them
related. -/
theorem forall₂_scanl
    {related : σ -> σ -> Prop}
    {step : σ -> ι -> σ}
    (each : forall left right input, related left right ->
      related (step left input) (step right input))
    {left right : σ}
    (begins : related left right)
    (inputs : List ι) :
    List.Forall₂ related (inputs.scanl step left) (inputs.scanl step right) := by
  induction inputs generalizing left right with
  | nil => exact .cons begins .nil
  | cons input rest hypothesis =>
      rw [List.scanl_cons, List.scanl_cons]
      exact .cons begins (hypothesis (each left right input begins))

namespace Account

/-- Two measurements are the same but for their reporters, and an observer has seen the same of
them. -/
structure Alike (left right : Account) : Prop where
  roundTrip : left.listener.roundTrip = right.listener.roundTrip
  acceptances : left.acceptances = right.acceptances
  levels : left.levels = right.levels
  faults : left.faults = right.faults

namespace Alike

variable {left right : Account}

/-- Sending does not ask who reports. -/
theorem sent (alike : left.Alike right) : (left.step .sent).Alike (right.step .sent) where
  roundTrip := congrArg RoundTrip.sent alike.roundTrip
  acceptances := alike.acceptances
  levels := by
    rw [levels_step_sent, levels_step_sent, flight, flight, alike.roundTrip, alike.levels]
  faults := alike.faults

/-- An event is handled by the measurement alone, whatever becomes of the report on it. -/
theorem delivered (alike : left.Alike right) (event : StreamEvent) :
    (left.step (.delivered event)).Alike (right.step (.delivered event)) := by
  have roundTrip : (left.step (.delivered event)).listener.roundTrip =
      (right.step (.delivered event)).listener.roundTrip :=
    congrArg (fun before => (before.deliver event).state) alike.roundTrip
  refine ⟨roundTrip, ?_, ?_, ?_⟩
  · rw [acceptances_step_delivered, acceptances_step_delivered, flight, flight, alike.roundTrip,
      alike.acceptances]
  · rw [levels_step_delivered, levels_step_delivered, flight, flight, roundTrip, alike.levels]
  · rw [faults_step_delivered, faults_step_delivered, alike.roundTrip, alike.faults]

theorem step (alike : left.Alike right) (traffic : Traffic) :
    (left.step traffic).Alike (right.step traffic) := by
  cases traffic with
  | sent => exact alike.sent
  | delivered event => exact alike.delivered event

end Alike
end Account

namespace Reflector

/-- Two reflectors echo the same and have told the same, and differ in their reporters only. -/
structure Alike (left right : Reflector) : Prop where
  reflection : left.reflection = right.reflection
  mailbox : left.mailbox = right.mailbox

/-- An event is echoed, counted and told whatever becomes of the report on it. -/
theorem Alike.deliver
    {left right : Reflector}
    (alike : left.Alike right)
    (event : StreamEvent) :
    (left.deliver event).Alike (right.deliver event) where
  reflection := by
    rw [reflection_deliver, reflection_deliver, alike.reflection]
  mailbox := by
    rw [mailbox_deliver, mailbox_deliver, alike.reflection, alike.mailbox]

end Reflector

/-- Two measurements that start in the same state stay the same after every message sent and
every event delivered, whoever reports on them; and so do two reflectors, in what they echo,
count and tell their owners. -/
theorem reporting_touches_no_measurement
    (roundTrip : RoundTrip)
    (acceptances : List Acceptance)
    (levels : List Int64)
    (faults : List Cause)
    (reflection : Reflection)
    (mailbox : Mailbox)
    (first second : Reporter)
    (traffic : List Traffic)
    (events : List StreamEvent) :
    List.Forall₂ Account.Alike
        (traffic.scanl Account.step ⟨⟨roundTrip, first⟩, acceptances, levels, faults⟩)
        (traffic.scanl Account.step ⟨⟨roundTrip, second⟩, acceptances, levels, faults⟩) ∧
      List.Forall₂ Reflector.Alike
        (events.scanl Reflector.deliver ⟨reflection, mailbox, first⟩)
        (events.scanl Reflector.deliver ⟨reflection, mailbox, second⟩) := by
  constructor
  · exact forall₂_scanl (fun _ _ traffic alike => alike.step traffic) ⟨rfl, rfl, rfl, rfl⟩ traffic
  · exact forall₂_scanl (fun _ _ event alike => alike.deliver event) ⟨rfl, rfl⟩ events

/-- A reporter that gets its core and writes every line, and one that gets neither: what they
have written differs, and so do their diagnostics. -/
example :
    let willing : Reporter := ⟨some 3, ⟨fun _ _ => true, []⟩, Journal.willing, #[]⟩
    let failing : Reporter :=
      ⟨some 3, ⟨fun _ _ => false, []⟩, ⟨fun _ => some "full", 0, #[]⟩, #[]⟩
    let reflection : Reflection :=
      ⟨fun _ _ => none, true, 0, #[], ReceiveCounts.zero, false⟩
    let events : List StreamEvent :=
      [.beginOfStream none, .data [1] 0 none false, .endOfStream none]
    let last := fun reporter => events.foldl Reflector.deliver ⟨reflection, ⟨true, []⟩, reporter⟩
    (last willing).reflection.echoed = #[[1]] ∧ (last failing).reflection.echoed = #[[1]] ∧
      (last willing).mailbox.waiting = [.endOfStream none] ∧
      (last failing).mailbox.waiting = [.endOfStream none] ∧
      (last willing).reporter.events.lines.size = 2 ∧ (last willing).reporter.log.size = 0 ∧
      (last failing).reporter.events.lines.size = 0 ∧ (last failing).reporter.log.size = 3 := by
  decide +kernel

end LatencyMeter

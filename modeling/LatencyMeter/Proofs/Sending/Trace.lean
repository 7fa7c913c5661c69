import LatencyMeter.Sending
import Mathlib.Data.List.Basic

/-!
# What happens during a run

A trace lists what happened during a stretch of a run, in order: clock readings and
attempts to hand over a message. A law says of an occurrence what must have happened
before it, and a trace that only grows at its end obeys a law as soon as each new
occurrence meets it.
-/

namespace LatencyMeter

/-- What happened during a stretch of a run, in order. -/
abbrev Trace := List Occurrence

namespace Trace

/-- The clock readings. -/
def readings (trace : Trace) : List UInt64 :=
  trace.filterMap fun
    | .read _ value => some value
    | .attempt _ _ => none

/-- The clock readings that were made to look at the schedule. -/
def polls (trace : Trace) : List UInt64 :=
  trace.filterMap fun
    | .read .schedule value => some value
    | _ => none

/-- The messages that the transport accepted. -/
def accepted (trace : Trace) : List Payload := Station.acceptedIn trace

/-- How often a message was handed over, accepted or not. -/
def attempts (trace : Trace) : Nat :=
  trace.countP fun
    | .attempt _ _ => true
    | .read _ _ => false

@[simp] theorem readings_append (first second : Trace) :
    readings (first ++ second) = readings first ++ readings second :=
  List.filterMap_append

@[simp] theorem polls_append (first second : Trace) :
    polls (first ++ second) = polls first ++ polls second :=
  List.filterMap_append

@[simp] theorem accepted_append (first second : Trace) :
    accepted (first ++ second) = accepted first ++ accepted second :=
  List.filterMap_append

@[simp] theorem attempts_append (first second : Trace) :
    attempts (first ++ second) = attempts first + attempts second :=
  List.countP_append

@[simp] theorem readings_read (purpose : ClockUse) (value : UInt64) :
    readings [.read purpose value] = [value] := rfl

@[simp] theorem readings_attempt (message : Payload) (fault : Option TransportFault) :
    readings [.attempt message fault] = [] := rfl

@[simp] theorem polls_poll (value : UInt64) : polls [.read .schedule value] = [value] := rfl

@[simp] theorem polls_stamp (value : UInt64) : polls [.read .stamp value] = [] := rfl

@[simp] theorem polls_attempt (message : Payload) (fault : Option TransportFault) :
    polls [.attempt message fault] = [] := rfl

@[simp] theorem accepted_read (purpose : ClockUse) (value : UInt64) :
    accepted [.read purpose value] = [] := rfl

@[simp] theorem accepted_attempt (message : Payload) :
    accepted [.attempt message none] = [message] := rfl

@[simp] theorem attempts_read (purpose : ClockUse) (value : UInt64) :
    attempts [.read purpose value] = 0 := rfl

@[simp] theorem attempts_attempt (message : Payload) (fault : Option TransportFault) :
    attempts [.attempt message fault] = 1 := rfl

/-! ## Laws -/

/-- Every occurrence meets a law about what happened before it. -/
def Obeys (law : Trace -> Occurrence -> Prop) (trace : Trace) : Prop :=
  forall earlier occurrence later,
    trace = earlier ++ occurrence :: later -> law earlier occurrence

theorem obeys_nil (law : Trace -> Occurrence -> Prop) : Obeys law [] := by
  intro earlier occurrence later split
  exact absurd split (List.append_ne_nil_of_right_ne_nil earlier (List.cons_ne_nil _ _)).symm

/-- A trace that obeys a law may go on with an occurrence that meets it. -/
theorem Obeys.concat
    {law : Trace -> Occurrence -> Prop}
    {trace : Trace}
    (obeys : trace.Obeys law)
    {latest : Occurrence}
    (meets : law trace latest) :
    (trace ++ [latest]).Obeys law := by
  intro earlier occurrence later split
  rcases List.eq_nil_or_concat later with rfl | ⟨inner, last, rfl⟩
  · obtain ⟨rfl, rfl⟩ := List.concat_inj.mp (by simpa using split)
    exact meets
  · have regrouped : trace ++ [latest] = (earlier ++ occurrence :: inner) ++ [last] := by
      rw [split]
      simp
    exact obeys earlier occurrence inner (List.append_inj' regrouped rfl).1

end Trace
end LatencyMeter

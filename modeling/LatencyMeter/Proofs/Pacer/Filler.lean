import LatencyMeter.Pacer
import LatencyMeter.Proofs.Header
import LatencyMeter.Proofs.Sending.Amid

/-!
# What a pacer's buffer keeps from run to run

A pacer writes all its messages into one buffer, and every run leaves the header of its
last message there. What stands behind the header is never written to, whatever the
requests of the run are answered with and however the run ends. So a pacer that has
been used in any way still has the length and the zero filler that it was created with.
-/

namespace LatencyMeter
namespace Program

variable {Request : Type} {Answer : Request -> Type}

/-- Every result of a program meets a condition, whatever its requests are answered with. -/
def Always (condition : α -> Prop) : Program Request Answer α -> Prop
  | .done result => condition result
  | .unfinished => True
  | .ask _ next => forall answer, (next answer).Always condition

namespace Always

variable {program : Program Request Answer α} {condition : α -> Prop}

/-- The results of a program may be used by one that reaches a further condition. -/
theorem bind
    {next : α -> Program Request Answer β}
    {further : β -> Prop}
    (first : program.Always condition)
    (second : forall result, condition result -> (next result).Always further) :
    (program >>= next).Always further := by
  induction program with
  | done result => exact second result first
  | unfinished => trivial
  | ask request rest hypothesis =>
      intro answer
      exact hypothesis answer (first answer)

/-- A condition that every result meets is met by the result of a run. -/
theorem of_run
    (always : program.Always condition)
    {answer : (request : Request) -> State -> Answer request × State}
    {state : State}
    {result : α}
    (ends : (program.run answer state).1 = some result) :
    condition result := by
  induction program generalizing state with
  | done final =>
      obtain rfl := Option.some.inj ends
      exact always
  | unfinished => contradiction
  | ask request next hypothesis =>
      exact hypothesis _ (always (answer request state).1) ends

end Always
end Program

namespace Buffer

/-- What stands behind the header. -/
def filler (buffer : Buffer) : Payload := buffer.bytes.drop Header.size

theorem length_bytes_eq (buffer : Buffer) :
    buffer.bytes.length = Header.size + buffer.filler.length := by
  have fits := buffer.fits
  rw [filler, List.length_drop]
  omega

@[simp] theorem filler_zeroed (length : Nat) (fits : Header.size ≤ length) :
    (zeroed length fits).filler = List.replicate (length - Header.size) 0 :=
  List.drop_replicate

@[simp] theorem filler_write (buffer : Buffer) (header : Header) :
    (buffer.write header).filler = buffer.filler :=
  List.drop_left' (Header.length_bytes header)

end Buffer

namespace Sending

/-- A launch leaves the filler as it is, whether the message is refused or not. -/
theorem filler_launch (timestamp : Bool) (buffer : Buffer) :
    (launch timestamp buffer).Always fun result => result.2.filler = buffer.filler := by
  intro number _ level _
  cases timestamp with
  | true =>
      intro time fault
      change ((buffer.write _).stamp time).filler = buffer.filler
      rw [Buffer.stamp_write, Buffer.filler_write]
  | false =>
      intro fault
      exact buffer.filler_write _

end Sending

namespace Pacer

open Sending

theorem filler_burst
    (linkName : String)
    (timestamp : Bool)
    (remaining : Nat)
    (progress : Progress) :
    (burst linkName timestamp remaining progress).Always fun result =>
      result.2.buffer.filler = progress.buffer.filler := by
  induction remaining generalizing progress with
  | zero => rfl
  | succ remaining hypothesis =>
      refine (filler_launch timestamp progress.buffer).bind ?_
      rintro ⟨fault, buffer⟩ kept
      cases fault with
      | none =>
          have goesOn :=
            hypothesis { progress with sent := progress.sent + 1, buffer := buffer }
          rwa [kept] at goesOn
      | some fault =>
          intro peak _
          exact kept

theorem filler_catchUpFrom
    (linkName : String)
    (plan : Plan)
    (start : UInt64)
    (steps : Nat)
    (now : UInt64)
    (progress : Progress) :
    (catchUpFrom linkName plan start steps now progress).Always fun result =>
      result.2.buffer.filler = progress.buffer.filler := by
  induction steps generalizing now progress with
  | zero =>
      unfold catchUpFrom
      split
      · trivial
      · rfl
  | succ steps hypothesis =>
      unfold catchUpFrom
      split
      · refine (filler_burst linkName plan.timestamp _ _).bind ?_
        rintro ⟨failure, later⟩ kept
        cases failure with
        | none =>
            intro now
            have goesOn := hypothesis now later
            rwa [kept] at goesOn
        | some failure => exact kept
      · rfl

theorem filler_delayedFrom
    (linkName : String)
    (delay : Duration)
    (plan : Plan)
    (remaining : Nat)
    (progress : Progress) :
    (delayedFrom linkName delay plan remaining progress).Always fun result =>
      result.2.buffer.filler = progress.buffer.filler := by
  induction remaining generalizing progress with
  | zero => rfl
  | succ remaining hypothesis =>
      unfold delayedFrom
      extract_lets launches
      have launched : (launches ()).Always fun result =>
          result.2.buffer.filler = progress.buffer.filler := by
        refine (filler_launch plan.timestamp progress.buffer).bind ?_
        rintro ⟨fault, buffer⟩ kept
        cases fault with
        | none =>
            have goesOn :=
              hypothesis { progress with sent := progress.sent + 1, buffer := buffer }
            rwa [kept] at goesOn
        | some fault =>
            intro peak _
            exact kept
      split
      · exact fun _ => launched
      · exact launched

/-- Whatever happens during a run, the pacer keeps its pacing and the filler of its buffer. -/
theorem filler_run
    (linkName : String)
    (steps : Nat)
    (plan : Plan)
    (pacer : Pacer) :
    (pacer.run linkName steps plan).Always fun result =>
      result.2.pacing = pacer.pacing ∧ result.2.buffer.filler = pacer.buffer.filler := by
  have looped : (pacer.loop linkName steps plan).Always fun result =>
      result.2.buffer.filler = pacer.buffer.filler := by
    unfold loop
    cases pacer.pacing with
    | catchUp =>
        intro start
        exact filler_catchUpFrom linkName plan start steps start ⟨0, 0, pacer.buffer⟩
    | delayed delay => exact filler_delayedFrom linkName delay plan _ ⟨0, _, pacer.buffer⟩
  refine looped.bind ?_
  rintro ⟨failure, progress⟩ kept
  cases failure with
  | some failure => exact ⟨rfl, kept⟩
  | none => exact fun _ => ⟨rfl, kept⟩

/-- A pacer that was created for messages of a length and then used for any runs,
successful or not, on any links, by any clocks and amid any confirmations. -/
inductive Used (pacing : Pacing) (length : UInt64) : Pacer -> Prop
  | created {pacer : Pacer}
      (creates : create pacing length = .ok pacer) :
      Used pacing length pacer
  | run {pacer left : Pacer} {linkName : String} {steps : Nat} {plan : Plan}
      {confirmations : Confirmations} {station : Station} {outcome : Except Failure UInt64}
      (used : Used pacing length pacer)
      (ends : (station.runAmid confirmations (pacer.run linkName steps plan)).1 =
        some (outcome, left)) :
      Used pacing length left

namespace Used

variable {pacing : Pacing} {length : UInt64} {pacer : Pacer}

/-- A used pacer is as good as new behind the header. -/
theorem kept (used : Used pacing length pacer) :
    Header.size ≤ length.toNat ∧ pacer.pacing = pacing ∧
      pacer.buffer.filler = List.replicate (length.toNat - Header.size) 0 := by
  induction used with
  | created creates =>
      unfold create at creates
      split at creates
      · next fits =>
          obtain rfl := Except.ok.inj creates
          exact ⟨fits, rfl, Buffer.filler_zeroed length.toNat fits⟩
      · contradiction
  | run _ ends hypothesis =>
      obtain ⟨fits, paced, filled⟩ := hypothesis
      obtain ⟨samePacing, sameFiller⟩ := (filler_run _ _ _ _).of_run ends
      exact ⟨fits, samePacing.trans paced, sameFiller.trans filled⟩

end Used
end Pacer
end LatencyMeter

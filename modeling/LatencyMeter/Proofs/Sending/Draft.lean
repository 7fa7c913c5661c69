import LatencyMeter.Pacer
import LatencyMeter.Proofs.Header

/-!
# What a sending loop puts into its messages

While a loop prepares a message its requests tell what the message will be: the answer
to the request for the count of sent messages is its number, and a reading of the clock
for stamping is its stamp. A draft keeps these answers, and whether the message has been
counted as unconfirmed.

A loop is faithful when every message that it hands over is described by its draft,
whatever the requests are answered with. Being faithful is a property of the program
alone, so it holds however the loop is interleaved with other threads. Every run of a
pacer is faithful.
-/

namespace LatencyMeter

/-- What the requests of a sending loop have told about its next message. -/
structure Draft where
  number : UInt64
  /-- The clock reading for the message, if one was made. -/
  stamp : Option UInt64
  /-- Whether the message is counted as unconfirmed. -/
  counted : Bool
  deriving DecidableEq, Repr

namespace Draft

/-- Nothing is known about the next message. -/
def blank : Draft := ⟨0, none, false⟩

/-- What is known after a request was answered: a number begins a new message, and a
message that was handed over is no longer a draft. -/
def after (draft : Draft) : (request : Sending.Request) -> request.Answer -> Draft
  | .total, number => ⟨number, none, false⟩
  | .raiseOutstanding, _ => { draft with counted := true }
  | .clock .stamp, time => { draft with stamp := some time }
  | .transmit _, _ => { draft with counted := false }
  | _, _ => draft

/-- The header of the message, when messages are stamped or not. -/
def header (draft : Draft) (timestamp : Bool) : Header :=
  ⟨draft.number, draft.stamp.getD 0, Sending.flagsFor timestamp⟩

/-- The message is counted, is stamped if messages are to be stamped, and begins with the
header of the draft. -/
structure Describes (draft : Draft) (timestamp : Bool) (message : Payload) : Prop where
  counted : draft.counted = true
  stamped : draft.stamp.isSome = timestamp
  decoded : Header.decode message = .ok (draft.header timestamp)

end Draft

namespace Sending

/-- Every message that a program hands over is described by its draft. -/
def Faithful (timestamp : Bool) : Draft -> Sending α -> Prop
  | _, .done _ => True
  | _, .unfinished => True
  | draft, .ask request next =>
      (forall message, request = .transmit message -> draft.Describes timestamp message) ∧
        forall answer, Faithful timestamp (draft.after request answer) (next answer)

namespace Faithful

variable {timestamp : Bool} {draft : Draft}

/-- A request that hands nothing over is faithful. -/
theorem ask
    {request : Request}
    {next : request.Answer -> Sending α}
    (silent : forall message, request ≠ .transmit message)
    (continues : forall answer,
      Faithful timestamp (draft.after request answer) (next answer)) :
    Faithful timestamp draft (.ask request next) := by
  refine ⟨?_, continues⟩
  intro message handsOver
  exact absurd handsOver (silent message)

/-- A faithful program may be followed by one that is faithful to any draft. -/
theorem bind
    {program : Sending α}
    {next : α -> Sending β}
    (first : Faithful timestamp draft program)
    (second : forall result draft, Faithful timestamp draft (next result)) :
    Faithful timestamp draft (program >>= next) := by
  induction program generalizing draft with
  | done result => exact second result draft
  | unfinished => trivial
  | ask request rest hypothesis =>
      obtain ⟨describes, continues⟩ := first
      refine ⟨describes, ?_⟩
      intro answer
      exact hypothesis answer (continues answer)

end Faithful

/-- A launched message is described by its draft, whatever was known before. -/
theorem faithful_launch (timestamp : Bool) (buffer : Buffer) (draft : Draft) :
    Faithful timestamp draft (launch timestamp buffer) := by
  refine .ask (by simp) fun number => ?_
  refine .ask (by simp) fun _ => ?_
  refine .ask (by simp) fun level => ?_
  refine .ask (by simp) fun _ => ?_
  cases timestamp with
  | true =>
      refine .ask (by simp) fun time => ?_
      refine ⟨?_, fun fault => trivial⟩
      rintro message ⟨rfl⟩
      refine ⟨rfl, rfl, ?_⟩
      rw [Buffer.bytes_stamp, Buffer.bytes_write, Header.stampOver_atFront]
      exact Header.decode_atFront _ buffer.fits
  | false =>
      refine ⟨?_, fun fault => trivial⟩
      rintro message ⟨rfl⟩
      refine ⟨rfl, rfl, ?_⟩
      rw [Buffer.bytes_write]
      exact Header.decode_atFront _ buffer.fits

/-- The report of a refused message hands nothing over. -/
theorem faithful_refused
    (timestamp : Bool)
    (draft : Draft)
    (linkName : String)
    (stage : Stage)
    (sent largest : UInt64)
    (fault : TransportFault) :
    Faithful timestamp draft (refused linkName stage sent largest fault) := by
  refine .ask (by simp) fun peak => ?_
  exact .ask (by simp) fun _ => trivial

end Sending

namespace Pacer

open Sending

theorem faithful_burst
    (linkName : String)
    (timestamp : Bool)
    (remaining : Nat)
    (progress : Progress)
    (draft : Draft) :
    Faithful timestamp draft (burst linkName timestamp remaining progress) := by
  induction remaining generalizing progress draft with
  | zero => trivial
  | succ remaining hypothesis =>
      unfold burst
      refine (faithful_launch timestamp progress.buffer draft).bind ?_
      rintro ⟨fault, buffer⟩ draft
      cases fault with
      | none => exact hypothesis _ draft
      | some fault =>
          exact (faithful_refused timestamp draft linkName _ _ _ fault).bind
            fun _ _ => trivial

theorem faithful_catchUpFrom
    (linkName : String)
    (plan : Plan)
    (start : UInt64)
    (steps : Nat)
    (now : UInt64)
    (progress : Progress)
    (draft : Draft) :
    Faithful plan.timestamp draft (catchUpFrom linkName plan start steps now progress) := by
  induction steps generalizing now progress draft with
  | zero =>
      unfold catchUpFrom
      split <;> trivial
  | succ steps hypothesis =>
      unfold catchUpFrom
      split
      · refine (faithful_burst linkName plan.timestamp _ _ draft).bind ?_
        rintro ⟨failure, progress⟩ draft
        cases failure with
        | none => exact .ask (by simp) fun now => hypothesis now progress _
        | some failure => trivial
      · trivial

theorem faithful_delayedFrom
    (linkName : String)
    (delay : Duration)
    (plan : Plan)
    (remaining : Nat)
    (progress : Progress)
    (draft : Draft) :
    Faithful plan.timestamp draft (delayedFrom linkName delay plan remaining progress) := by
  induction remaining generalizing progress draft with
  | zero => trivial
  | succ remaining hypothesis =>
      unfold delayedFrom
      extract_lets launches
      have launched (draft : Draft) : Faithful plan.timestamp draft (launches ()) := by
        refine (faithful_launch plan.timestamp progress.buffer draft).bind ?_
        rintro ⟨fault, buffer⟩ draft
        cases fault with
        | none => exact hypothesis _ draft
        | some fault =>
            exact (faithful_refused plan.timestamp draft linkName _ _ _ fault).bind
              fun _ _ => trivial
      split
      · exact .ask (by simp) fun _ => launched _
      · exact launched draft

/-- Whatever a run of a pacer hands over is described by its draft. -/
theorem faithful_run
    (linkName : String)
    (steps : Nat)
    (plan : Plan)
    (pacer : Pacer)
    (draft : Draft) :
    Faithful plan.timestamp draft (pacer.run linkName steps plan) := by
  have looped : Faithful plan.timestamp draft (pacer.loop linkName steps plan) := by
    unfold loop
    cases pacer.pacing with
    | catchUp =>
        exact .ask (by simp) fun start =>
          faithful_catchUpFrom linkName plan start steps start _ _
    | delayed delay => exact faithful_delayedFrom linkName delay plan _ _ draft
  refine looped.bind ?_
  rintro ⟨failure, progress⟩ draft
  cases failure with
  | some failure => trivial
  | none => exact .ask (by simp) fun _ => trivial

end Pacer
end LatencyMeter

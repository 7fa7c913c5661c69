import LatencyMeter.Proofs.Schedule
import LatencyMeter.Proofs.Sending.Ledger

/-!
# Runs of a pacer keep the ledger

A run of either pacer follows the protocol of its stint, whatever the clock says and
whatever the transport does. It ends with all messages of the plan accepted, or right after
the first one that was refused, with the failure that the transport gave.
-/

namespace LatencyMeter
namespace Stint

variable {stint : Stint} {ledger : Ledger} {progress : Pacer.Progress}

/-- The progress of a run tells how many messages of the plan were accepted. -/
structure At (stint : Stint) (progress : Pacer.Progress) (ledger : Ledger) : Prop where
  sent : exists messages,
    stint.Sent messages ledger ∧ messages.length = progress.sent.toNat
  length : progress.buffer.bytes.length = stint.length

/-- A run failed because the transport refused a message. -/
def Failed (stint : Stint) (failure : Failure) (ledger : Ledger) : Prop :=
  exists messages fault stage,
    stint.Refused messages fault ledger ∧
      failure = (Failure.ofCause (.transport fault)).within stage

/-- What a sending loop leaves behind when it has come to its end, or has failed. -/
def Left
    (stint : Stint)
    (complete : Pacer.Progress -> Prop)
    (ledger : Ledger)
    (result : Option Failure × Pacer.Progress) :
    Prop :=
  match result.1 with
  | none => stint.At result.2 ledger ∧ complete result.2
  | some failure =>
      stint.Failed failure ledger ∧ result.2.buffer.bytes.length = stint.length

/-- The result of a run: the count of the plan, or the failure that the transport gave. -/
def Concluded (stint : Stint) (ledger : Ledger) : Except Failure UInt64 -> Prop
  | .ok count =>
      count = stint.plan.count ∧
        exists messages,
          stint.Sent messages ledger ∧ messages.length = stint.plan.count.toNat
  | .error failure => stint.Failed failure ledger

/-- When a run has ended no message is underway. -/
theorem Concluded.settled
    {result : Except Failure UInt64}
    (concluded : stint.Concluded ledger result) :
    ledger.Settled := by
  cases result with
  | ok count =>
      obtain ⟨_, _, sent, _⟩ := concluded
      exact sent.settled
  | error failure =>
      obtain ⟨_, _, _, refused, _⟩ := concluded
      exact refused.settled

/-- Where nothing was sent a run may begin. -/
theorem At.begins
    {stint : Stint}
    (settled : ledger.Settled)
    (before : ledger.handed = stint.before)
    {buffer : Buffer}
    (length : buffer.bytes.length = stint.length)
    (largest : UInt64) :
    stint.At ⟨0, largest, buffer⟩ ledger where
  sent := ⟨[], ⟨settled, by simp [before], Nat.zero_le _⟩, rfl⟩
  length := length

/-- One more message is launched, and the loop goes on or reports why it was refused. -/
theorem At.follows_launch
    (here : stint.At progress ledger)
    (left : progress.sent.toNat < stint.plan.count.toNat)
    (linkName : String)
    (stage : Stage)
    {goesOn : Pacer.Progress -> Sending (Option Failure × Pacer.Progress)}
    {complete : Pacer.Progress -> Prop}
    (continues : forall later buffer,
      stint.At { progress with sent := progress.sent + 1, buffer := buffer } later ->
        stint.protocol.Follows (stint.Left complete) later
          (goesOn { progress with sent := progress.sent + 1, buffer := buffer })) :
    stint.protocol.Follows (stint.Left complete) ledger
      (Sending.launch stint.plan.timestamp progress.buffer >>= fun result =>
        match result.1 with
        | some fault =>
            Sending.refused linkName stage progress.sent progress.largest fault >>= fun failure =>
              pure (some failure, { progress with buffer := result.2 })
        | none =>
            goesOn { progress with sent := progress.sent + 1, buffer := result.2 }) := by
  obtain ⟨messages, sent, count⟩ := here.sent
  refine (Stint.follows_launch sent (count ▸ left) here.length).bind ?_
  rintro later ⟨fault, buffer⟩ ⟨launched, length⟩
  cases fault with
  | none =>
      obtain ⟨message, sent⟩ := launched
      refine continues later buffer ⟨⟨_, sent, ?_⟩, length⟩
      rw [List.length_append, List.length_singleton, count,
        Word.toNat_succ_of_lt (UInt64.lt_iff_toNat_lt.mpr left)]
  | some fault =>
      refine (follows_refused launched linkName stage _ _).bind ?_
      rintro last failure ⟨refused, rfl⟩
      exact ⟨⟨messages, fault, stage, refused, rfl⟩, length⟩

/-- A loop that is not before the count of its plan has sent all messages. -/
theorem At.complete
    (here : stint.At progress ledger)
    (notBefore : ¬ progress.sent < stint.plan.count) :
    progress.sent = stint.plan.count := by
  obtain ⟨messages, sent, count⟩ := here.sent
  refine UInt64.le_antisymm (UInt64.le_iff_toNat_le.mpr ?_) (UInt64.not_lt.mp notBefore)
  exact count ▸ sent.within

end Stint

namespace Pacer

open Stint

variable {stint : Stint} {ledger : Ledger} {progress : Progress}

theorem follows_burst
    (linkName : String)
    (remaining : Nat)
    (here : stint.At progress ledger)
    (room : progress.sent.toNat + remaining ≤ stint.plan.count.toNat) :
    stint.protocol.Follows (stint.Left fun _ => True) ledger
      (burst linkName stint.plan.timestamp remaining progress) := by
  induction remaining generalizing progress ledger with
  | zero => exact ⟨here, trivial⟩
  | succ remaining hypothesis =>
      have left : progress.sent.toNat < stint.plan.count.toNat := by omega
      refine here.follows_launch left linkName .pacedLoop fun later buffer there => ?_
      refine hypothesis there ?_
      rw [Word.toNat_succ_of_lt (UInt64.lt_iff_toNat_lt.mpr left)]
      omega

theorem follows_catchUpFrom
    (linkName : String)
    (start : UInt64)
    (steps : Nat)
    (now : UInt64)
    (here : stint.At progress ledger) :
    stint.protocol.Follows (stint.Left fun last => last.sent = stint.plan.count) ledger
      (catchUpFrom linkName stint.plan start steps now progress) := by
  induction steps generalizing now progress ledger with
  | zero =>
      unfold catchUpFrom
      split
      · obtain ⟨messages, sent, _⟩ := here.sent
        exact ⟨messages, sent⟩
      · next notBefore => exact ⟨here, here.complete notBefore⟩
  | succ steps hypothesis =>
      unfold catchUpFrom
      split
      · extract_lets due missing largest
        obtain ⟨messages, sent, count⟩ := here.sent
        -- The schedule never asks for more than the plan, so a burst stays within it.
        have room : progress.sent.toNat + missing.toNat ≤ stint.plan.count.toNat :=
          Schedule.add_missing_le (UInt64.le_iff_toNat_le.mpr (count ▸ sent.within)) _ _
        have there : stint.At { progress with largest := largest } ledger :=
          ⟨here.sent, here.length⟩
        refine (follows_burst linkName missing.toNat there room).bind ?_
        rintro later ⟨failure, after⟩ left
        cases failure with
        | none =>
            refine .ask (mayAsk_of_settled ?_ rfl) fun now _ => hypothesis now left.1
            obtain ⟨_, sent, _⟩ := left.1.sent
            exact sent.settled
        | some failure => exact left
      · next notBefore => exact ⟨here, here.complete notBefore⟩

theorem follows_delayedFrom
    (linkName : String)
    (delay : Duration)
    (remaining : Nat)
    (here : stint.At progress ledger)
    (room : progress.sent.toNat + remaining = stint.plan.count.toNat) :
    stint.protocol.Follows (stint.Left fun last => last.sent = stint.plan.count) ledger
      (delayedFrom linkName delay stint.plan remaining progress) := by
  induction remaining generalizing progress ledger with
  | zero => exact ⟨here, UInt64.toNat_inj.mp room⟩
  | succ remaining hypothesis =>
      unfold delayedFrom
      extract_lets launches
      have left : progress.sent.toNat < stint.plan.count.toNat := by omega
      have launched : stint.protocol.Follows
          (stint.Left fun last => last.sent = stint.plan.count) ledger (launches ()) := by
        refine here.follows_launch left linkName .delayedLoop fun later buffer there => ?_
        refine hypothesis there ?_
        rw [Word.toNat_succ_of_lt (UInt64.lt_iff_toNat_lt.mpr left)]
        omega
      obtain ⟨_, sent, _⟩ := here.sent
      split
      · exact .ask (mayAsk_of_settled sent.settled rfl) fun _ _ => launched
      · exact launched

/-- A run of a pacer follows the protocol of its stint. It keeps its pacing and the length
of its messages. -/
theorem follows_run
    (linkName : String)
    (steps : Nat)
    (plan : Plan)
    (pacer : Pacer)
    (settled : ledger.Settled) :
    Protocol.Follows (protocol ⟨ledger.handed, plan, pacer.buffer.bytes.length⟩)
      (fun later result =>
        Concluded ⟨ledger.handed, plan, pacer.buffer.bytes.length⟩ later result.1 ∧
          result.2.pacing = pacer.pacing ∧
          result.2.buffer.bytes.length = pacer.buffer.bytes.length)
      ledger (pacer.run linkName steps plan) := by
  let stint : Stint := ⟨ledger.handed, plan, pacer.buffer.bytes.length⟩
  have looped : stint.protocol.Follows (stint.Left fun last => last.sent = plan.count) ledger
      (pacer.loop linkName steps plan) := by
    unfold loop
    cases pacer.pacing with
    | catchUp =>
        exact .ask (mayAsk_of_settled settled rfl) fun start _ =>
          follows_catchUpFrom linkName start steps start (.begins settled rfl rfl 0)
    | delayed delay =>
        exact follows_delayedFrom linkName delay _ (.begins settled rfl rfl _) (Nat.zero_add _)
  refine looped.bind ?_
  rintro later ⟨failure, progress⟩ left
  cases failure with
  | some failure => exact ⟨left.1, rfl, left.2⟩
  | none =>
      obtain ⟨there, complete⟩ := left
      obtain ⟨messages, sent, count⟩ := there.sent
      refine .ask (mayAsk_of_settled sent.settled rfl) fun _ _ => ?_
      refine ⟨⟨complete, messages, sent, ?_⟩, rfl, there.length⟩
      rw [count, complete]

end Pacer
end LatencyMeter

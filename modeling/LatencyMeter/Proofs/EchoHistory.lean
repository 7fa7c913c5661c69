import LatencyMeter.Proofs.EchoRing
import LatencyMeter.Proofs.Word
import Mathlib.Data.Finset.Card
import Mathlib.Data.List.Induction

/-!
# Echo windows and complete histories

A window keeps only its newest number and a ring of marks. This module compares it
with a history, which keeps every number that was ever accepted: whatever numbers a
window is asked about, in any order and with any totals, it answers as the history
of its own acceptances does.

The comparison rests on `EchoWindow.Represents`. It speaks about the marks of the
numbers up to the newest only; what the ring holds for any other number is left open,
because those marks are cleared before they are read.
-/

namespace LatencyMeter

/-- The numbers accepted so far, the latest first. -/
abbrev EchoHistory := List UInt64

namespace EchoHistory

/-- Whether the newest accepted number is a whole window ahead of a number. -/
def outruns (history : EchoHistory) (number : UInt64) : Bool :=
  match history.max? with
  | none => false
  | some newest => number ≤ newest && 4096 ≤ newest.toNat - number.toNat

/-- The verdict of a complete history on a number when `total` messages have been sent. -/
def verdict (history : EchoHistory) (number total : UInt64) : EchoVerdict :=
  if total ≤ number then .unsent
  else if history.outruns number then .stale
  else if number ∈ history then .duplicate
  else .fresh

/-- The accepted numbers as a set of naturals. -/
def values (history : EchoHistory) : Finset Nat :=
  (history.map UInt64.toNat).toFinset

theorem mem_values
    {history : EchoHistory}
    {number : UInt64} :
    number.toNat ∈ history.values ↔ number ∈ history := by
  unfold values
  rw [List.mem_toFinset, List.mem_map]
  constructor
  · rintro ⟨other, member, same⟩
    rwa [← UInt64.toNat_inj.mp same]
  · intro member
    exact ⟨number, member, rfl⟩

theorem card_values
    {history : EchoHistory}
    (distinct : history.Nodup) :
    history.values.card = history.length := by
  have distinctValues : (history.map UInt64.toNat).Nodup :=
    distinct.map fun _ _ => UInt64.toNat_inj.mp
  rw [values, List.toFinset_card_of_nodup distinctValues, List.length_map]

theorem values_subset_range
    {history : EchoHistory}
    {total : UInt64}
    (below : forall number, number ∈ history -> number < total) :
    history.values ⊆ Finset.range total.toNat := by
  intro value member
  obtain ⟨number, present, rfl⟩ := List.mem_map.mp (List.mem_toFinset.mp member)
  exact Finset.mem_range.mpr (UInt64.lt_iff_toNat_lt.mp (below number present))

/-- Distinct numbers below a total are no more than the total. -/
theorem length_le_of_nodup
    {history : EchoHistory}
    {total : UInt64}
    (distinct : history.Nodup)
    (below : forall number, number ∈ history -> number < total) :
    history.length ≤ total.toNat := by
  have counted := Finset.card_le_card (values_subset_range below)
  rwa [card_values distinct, Finset.card_range] at counted

/-- Distinct numbers below a total are as many as the total exactly when they are all
the numbers below it. -/
theorem length_eq_iff_complete
    {history : EchoHistory}
    {total : UInt64}
    (distinct : history.Nodup)
    (below : forall number, number ∈ history -> number < total) :
    history.length = total.toNat ↔ forall number, number < total -> number ∈ history := by
  have contained := values_subset_range below
  constructor
  · intro equal number before
    have full : history.values = Finset.range total.toNat := by
      apply Finset.eq_of_subset_of_card_le contained
      rw [card_values distinct, Finset.card_range, equal]
    apply mem_values.mp
    rw [full]
    exact Finset.mem_range.mpr (UInt64.lt_iff_toNat_lt.mp before)
  · intro complete
    have covered : Finset.range total.toNat ⊆ history.values := by
      intro value member
      have before := Finset.mem_range.mp member
      have fits : value < 2 ^ 64 := before.trans total.toNat_lt
      have same : (UInt64.ofNat value).toNat = value := UInt64.toNat_ofNat_of_lt' fits
      rw [← same]
      apply mem_values.mpr
      apply complete
      rwa [UInt64.lt_iff_toNat_lt, same]
    have counted := Finset.card_le_card covered
    rw [card_values distinct, Finset.card_range] at counted
    exact Nat.le_antisymm (length_le_of_nodup distinct below) counted

/-- A fresh number has been sent and has not been accepted before. -/
theorem of_verdict_fresh
    {history : EchoHistory}
    {number total : UInt64}
    (fresh : history.verdict number total = .fresh) :
    number < total ∧ number ∉ history := by
  unfold verdict at fresh
  split at fresh
  · exact absurd fresh (by decide)
  · next sent =>
    split at fresh
    · exact absurd fresh (by decide)
    · split at fresh
      · exact absurd fresh (by decide)
      · next absent => exact ⟨UInt64.not_le.mp sent, absent⟩

end EchoHistory

namespace EchoWindow

/-! ## The ring -/

/-- Two numbers share a position only if they are a multiple of the window apart. -/
theorem slot_ne_slot
    {older newer : Nat}
    (before : older < newer)
    (near : newer < older + span) :
    slot older ≠ slot newer := by
  intro equal
  have remainders : older % 4096 = newer % 4096 := congrArg Fin.val equal
  unfold span at near
  omega

/-- Clearing leaves the marks of all positions but those of the cleared numbers. -/
theorem isMarked_clearFrom
    (first count : Nat)
    (seen : EchoRing)
    (position : Fin 4096) :
    (clearFrom first count seen).isMarked position = true ↔
      seen.isMarked position = true ∧
        ∀ offset, offset < count -> slot (first + offset) ≠ position := by
  induction count generalizing first seen with
  | zero => simp
  | succ count hypothesis =>
      rw [clearFrom_succ, hypothesis, EchoRing.isMarked_clear]
      constructor
      · rintro ⟨marked, later⟩
        split at marked
        · exact absurd marked (by decide)
        · next here =>
          refine ⟨marked, ?_⟩
          intro offset within
          cases offset with
          | zero => exact here
          | succ offset =>
              have elsewhere := later offset (by omega)
              rwa [Nat.add_right_comm] at elsewhere
      · rintro ⟨marked, elsewhere⟩
        have here : slot first ≠ position := elsewhere 0 (by omega)
        rw [if_neg here]
        refine ⟨marked, ?_⟩
        intro offset within
        have later := elsewhere (offset + 1) (by omega)
        rwa [← Nat.add_assoc, Nat.add_right_comm] at later

/-! ## Windows that represent a history -/

/-- The window knows the newest number of the history, and its marks agree with the
history as far as the window reaches. -/
structure Represents (window : EchoWindow) (history : EchoHistory) : Prop where
  newest_eq : window.newest = history.max?
  blank : window.newest = none -> forall position, window.seen.isMarked position = false
  marked : forall newest, window.newest = some newest ->
    forall number, number ≤ newest -> newest.toNat < number.toNat + span ->
      (window.seen.isMarked (slot number.toNat) = true ↔ number ∈ history)

theorem represents_empty : empty.Represents [] where
  newest_eq := rfl
  blank := by
    intro _ position
    exact EchoRing.isMarked_blank position
  marked := by
    intro newest isNewest
    exact absurd isNewest (by simp [empty])

namespace Represents

variable {window : EchoWindow} {history : EchoHistory}

/-- Nothing newer than the newest number has been accepted. -/
theorem le_newest
    (represents : window.Represents history)
    {newest number : UInt64}
    (isNewest : window.newest = some newest)
    (member : number ∈ history) :
    number ≤ newest := by
  have greatest : history.max? = some newest :=
    represents.newest_eq.symm.trans isNewest
  exact (List.max?_eq_some_iff.mp greatest).2 number member

/-- Before the first acceptance the history is empty. -/
theorem history_eq_nil
    (represents : window.Represents history)
    (unset : window.newest = none) :
    history = [] :=
  List.max?_eq_none_iff.mp (represents.newest_eq.symm.trans unset)

/-- The newest number after a number was accepted that is the newest one. -/
theorem max?_cons_of_newest
    {number : UInt64}
    (newest : forall older, older ∈ history -> older ≤ number) :
    List.max? (number :: history) = some number := by
  apply List.max?_eq_some_iff.mpr
  refine ⟨List.mem_cons_self, ?_⟩
  intro older member
  rcases List.mem_cons.mp member with rfl | earlier
  · exact UInt64.le_refl older
  · exact newest older earlier

/-- The first number of all is accepted into a blank ring. -/
theorem first
    (represents : window.Represents history)
    (unset : window.newest = none)
    (number : UInt64) :
    (({ window with newest := some number } : EchoWindow).mark number).Represents
      (number :: history) where
  newest_eq := by
    rw [represents.history_eq_nil unset]
    rfl
  blank := by
    intro stillUnset
    exact absurd stillUnset (by simp [mark])
  marked := by
    intro newest isNewest other notNewer near
    obtain rfl : number = newest := by simpa [mark] using isNewest
    rw [represents.history_eq_nil unset]
    simp only [mark, EchoRing.isMarked_mark, represents.blank unset, List.mem_cons,
      List.not_mem_nil, or_false]
    by_cases same : other = number
    · simp [same]
    · have before : other.toNat < number.toNat := by
        have different : other.toNat ≠ number.toNat :=
          fun equal => same (UInt64.toNat_inj.mp equal)
        have ordered := UInt64.le_iff_toNat_le.mp notNewer
        omega
      simp [same, (slot_ne_slot before near).symm]

/-- A number within reach of the newest one is accepted where it stands. -/
theorem within
    (represents : window.Represents history)
    {newest number : UInt64}
    (isNewest : window.newest = some newest)
    (notNewer : number ≤ newest)
    (near : newest.toNat < number.toNat + span) :
    (window.mark number).Represents (number :: history) where
  newest_eq := by
    have greatest : history.max? = some newest :=
      represents.newest_eq.symm.trans isNewest
    obtain ⟨member, upper⟩ := List.max?_eq_some_iff.mp greatest
    have extended : List.max? (number :: history) = some newest := by
      apply List.max?_eq_some_iff.mpr
      refine ⟨List.mem_cons_of_mem number member, ?_⟩
      intro other present
      rcases List.mem_cons.mp present with rfl | earlier
      · exact notNewer
      · exact upper other earlier
    rw [extended]
    exact isNewest
  blank := by
    intro unset
    exact absurd (isNewest.symm.trans unset) (by simp)
  marked := by
    intro current isCurrent other otherNotNewer otherNear
    obtain rfl : newest = current :=
      Option.some.inj (isNewest.symm.trans isCurrent)
    have agrees := represents.marked newest isNewest other otherNotNewer otherNear
    have numberOrdered := UInt64.le_iff_toNat_le.mp notNewer
    have otherOrdered := UInt64.le_iff_toNat_le.mp otherNotNewer
    simp only [mark, EchoRing.isMarked_mark, List.mem_cons]
    rcases Nat.lt_trichotomy other.toNat number.toNat with before | equal | after
    · have apart := (slot_ne_slot before (by omega)).symm
      have different : other ≠ number := by
        rintro rfl
        omega
      simp [apart, different, agrees]
    · obtain rfl : other = number := UInt64.toNat_inj.mp equal
      simp
    · have apart := slot_ne_slot after (by omega)
      have different : other ≠ number := by
        rintro rfl
        omega
      simp [apart, different, agrees]

/-- A number newer than the newest one is accepted after the numbers between them have
lost whatever marks stood in their positions. -/
theorem beyond
    (represents : window.Represents history)
    {newest number : UInt64}
    (isNewest : window.newest = some newest)
    (newer : newest < number) :
    ((window.advance newest number).mark number).Represents (number :: history) where
  newest_eq := by
    symm
    apply max?_cons_of_newest
    intro older member
    exact UInt64.le_of_lt
      (UInt64.lt_of_le_of_lt (represents.le_newest isNewest member) newer)
  blank := by
    intro unset
    exact absurd unset (by simp [mark, advance])
  marked := by
    intro current isCurrent other notNewer near
    obtain rfl : number = current := by simpa [mark, advance] using isCurrent
    have ahead := UInt64.lt_iff_toNat_lt.mp newer
    have ordered := UInt64.le_iff_toNat_le.mp notNewer
    simp only [mark, EchoRing.isMarked_mark, List.mem_cons]
    by_cases same : other = number
    · simp [same]
    have different : other.toNat ≠ number.toNat :=
      fun equal => same (UInt64.toNat_inj.mp equal)
    have before : other.toNat < number.toNat := by omega
    rw [if_neg (slot_ne_slot before near).symm]
    simp only [same, false_or]
    -- A number after the old newest one was never accepted.
    have unseen (after : newest.toNat < other.toNat) : other ∉ history := by
      intro member
      have bound := UInt64.le_iff_toNat_le.mp (represents.le_newest isNewest member)
      omega
    unfold advance
    dsimp only
    split
    · next far =>
      unfold span at far near
      simp only [EchoRing.isMarked_blank, Bool.false_eq_true, false_iff]
      exact unseen (by omega)
    · next close =>
      unfold span at close near
      rw [isMarked_clearFrom]
      rcases Nat.lt_or_ge newest.toNat other.toNat with after | notAfter
      · refine iff_of_false ?_ (unseen after)
        rintro ⟨_, kept⟩
        apply kept (other.toNat - (newest.toNat + 1)) (by omega)
        congr 1
        omega
      · have agrees := represents.marked newest isNewest other
          (UInt64.le_iff_toNat_le.mpr notAfter) (by unfold span; omega)
        rw [agrees]
        refine and_iff_left ?_
        intro offset inside
        exact (slot_ne_slot (by omega) (by unfold span; omega)).symm

/-- The history is outrun exactly when the window says that the number is stale. -/
theorem outruns_iff
    (represents : window.Represents history)
    {newest : UInt64}
    (isNewest : window.newest = some newest)
    (number : UInt64) :
    history.outruns number = true ↔
      number ≤ newest ∧ span ≤ newest.toNat - number.toNat := by
  have greatest : history.max? = some newest :=
    represents.newest_eq.symm.trans isNewest
  unfold EchoHistory.outruns span
  rw [greatest]
  simp

/-- A window answers as the history that it represents. -/
theorem check_eq_verdict
    (represents : window.Represents history)
    (number total : UInt64) :
    (window.check number total).1 = history.verdict number total := by
  unfold check EchoHistory.verdict
  by_cases unsent : total ≤ number
  · rw [if_pos unsent, if_pos unsent]
  rw [if_neg unsent, if_neg unsent]
  cases isNewest : window.newest with
  | none =>
      rw [represents.history_eq_nil isNewest]
      simp [EchoHistory.outruns]
  | some newest =>
      have outrun := represents.outruns_iff isNewest number
      dsimp only
      by_cases notNewer : number ≤ newest
      · rw [if_pos notNewer]
        by_cases far : span ≤ newest.toNat - number.toNat
        · rw [if_pos far, if_pos (outrun.mpr ⟨notNewer, far⟩)]
        · have ordered := UInt64.le_iff_toNat_le.mp notNewer
          have agrees :=
            represents.marked newest isNewest number notNewer (by omega)
          rw [if_neg far, if_neg fun old => far (outrun.mp old).2]
          by_cases seen : window.seen.isMarked (slot number.toNat) = true
          · rw [if_pos seen, if_pos (agrees.mp seen)]
          · rw [if_neg seen, if_neg fun member => seen (agrees.mpr member)]
      · rw [if_neg notNewer, if_neg fun old => notNewer (outrun.mp old).1,
          if_neg fun member => notNewer (represents.le_newest isNewest member)]

/-- A fresh number joins the history. -/
theorem check_fresh
    (represents : window.Represents history)
    {number total : UInt64}
    (fresh : (window.check number total).1 = .fresh) :
    (window.check number total).2.Represents (number :: history) := by
  unfold check at fresh ⊢
  split at fresh
  · simp at fresh
  next sent =>
  rw [if_neg sent]
  cases isNewest : window.newest with
  | none => exact represents.first isNewest number
  | some newest =>
      rw [isNewest] at fresh
      dsimp only at fresh ⊢
      split at fresh
      · next notNewer =>
        split at fresh
        · simp at fresh
        next close =>
        split at fresh
        · simp at fresh
        next unseen =>
        rw [if_pos notNewer, if_neg close, if_neg unseen]
        exact represents.within isNewest notNewer (by omega)
      · next newer =>
        rw [if_neg newer]
        exact represents.beyond isNewest (UInt64.not_le.mp newer)

end Represents

/-- Only a fresh number changes the window. -/
theorem check_eq_self_of_ne_fresh
    {window : EchoWindow}
    {number total : UInt64}
    (known : (window.check number total).1 ≠ .fresh) :
    (window.check number total).2 = window := by
  unfold check at known ⊢
  split
  · rfl
  next sent =>
  rw [if_neg sent] at known
  cases isNewest : window.newest with
  | none => simp [isNewest] at known
  | some newest =>
      rw [isNewest] at known
      dsimp only at known ⊢
      split
      · next notNewer =>
        rw [if_pos notNewer] at known
        split
        · rfl
        next close =>
        rw [if_neg close] at known
        split
        · rfl
        next unseen => simp [unseen] at known
      · next newer => simp [newer] at known

/-- A fresh number has been sent. -/
theorem lt_of_check_fresh
    {window : EchoWindow}
    {number total : UInt64}
    (fresh : (window.check number total).1 = .fresh) :
    number < total := by
  unfold check at fresh
  split at fresh
  · simp at fresh
  · next sent => exact UInt64.not_le.mp sent

end EchoWindow

/-! ## Windows in use -/

/-- A window and the numbers that it has called fresh, the latest first. -/
structure EchoRecord where
  window : EchoWindow
  accepted : EchoHistory

namespace EchoRecord

/-- A window that has not been asked anything. -/
def empty : EchoRecord := ⟨EchoWindow.empty, []⟩

/-- Ask the window about a number, given how many messages have been sent. -/
def check (record : EchoRecord) (call : UInt64 × UInt64) : EchoRecord :=
  let (verdict, window) := record.window.check call.1 call.2
  ⟨window, if verdict = .fresh then call.1 :: record.accepted else record.accepted⟩

/-- Ask a new window about several numbers in a row. -/
def ofCalls (calls : List (UInt64 × UInt64)) : EchoRecord :=
  calls.foldl check empty

/-- One call keeps the window in step with what it has accepted. -/
theorem represents_check
    {record : EchoRecord}
    (represents : record.window.Represents record.accepted)
    (call : UInt64 × UInt64) :
    (record.check call).window.Represents (record.check call).accepted := by
  unfold check
  dsimp only
  split
  · next fresh => exact represents.check_fresh fresh
  · next known =>
    rw [EchoWindow.check_eq_self_of_ne_fresh known]
    exact represents

/-- A window always represents what it has accepted. -/
theorem represents_ofCalls (calls : List (UInt64 × UInt64)) :
    (ofCalls calls).window.Represents (ofCalls calls).accepted := by
  unfold ofCalls
  induction calls using List.reverseRecOn with
  | nil => exact EchoWindow.represents_empty
  | append_singleton earlier call hypothesis =>
      rw [List.foldl_append]
      exact represents_check hypothesis call

/-- Whatever a new window has been asked before, it judges the next number as the
complete record of its acceptances does, and a verdict other than fresh leaves it as it
was. -/
theorem check_eq_exact_history
    (calls : List (UInt64 × UInt64))
    (number total : UInt64) :
    ((ofCalls calls).window.check number total).1 =
        (ofCalls calls).accepted.verdict number total ∧
      (((ofCalls calls).window.check number total).1 ≠ .fresh ->
        ((ofCalls calls).window.check number total).2 = (ofCalls calls).window) :=
  ⟨(represents_ofCalls calls).check_eq_verdict number total,
    EchoWindow.check_eq_self_of_ne_fresh⟩

end EchoRecord
end LatencyMeter

import LatencyMeter.Word
import Mathlib.Algebra.Ring.Nat

/-!
# The order of words

The smaller and the larger of two words, as comparisons find them, and the least and
greatest words of a list, which do not depend on its order. A sum below a word, or below
the limit of words, does not wrap.
-/

namespace LatencyMeter

/-- The larger of two words is one of them, and the least word that is above both. -/
instance lawfulOrderMaxWord : Std.LawfulOrderMax UInt64 := by
  have larger (left right : UInt64) :
      max left right = if left ≤ right then right else left := rfl
  refine .of_max_le_iff ?_ ?_
  · intro left right bound
    rw [larger]
    split
    · next ordered =>
      exact ⟨fun below => ⟨UInt64.le_trans ordered below, below⟩, And.right⟩
    · next reversed =>
      have ordered : right ≤ left := UInt64.le_of_lt (UInt64.not_le.mp reversed)
      exact ⟨fun below => ⟨below, UInt64.le_trans ordered below⟩, And.left⟩
  · intro left right
    rw [larger]
    split
    · exact .inr rfl
    · exact .inl rfl

namespace Word

theorem min_eq_ite (left right : UInt64) :
    min left right = if left < right then left else right := by
  change (if left ≤ right then left else right) = _
  by_cases smaller : left < right
  · rw [if_pos smaller, if_pos (UInt64.le_of_lt smaller)]
  · rw [if_neg smaller]
    split
    · next ordered => exact UInt64.le_antisymm ordered (UInt64.not_lt.mp smaller)
    · rfl

theorem max_eq_ite (left right : UInt64) :
    max left right = if right < left then left else right := by
  change (if left ≤ right then right else left) = _
  by_cases larger : right < left
  · rw [if_pos larger, if_neg (UInt64.not_le.mpr larger)]
  · rw [if_neg larger, if_pos (UInt64.not_lt.mp larger)]

@[simp] theorem toNat_min (left right : UInt64) :
    (min left right).toNat = min left.toNat right.toNat := by
  change (if left ≤ right then left else right).toNat = _
  rw [Nat.min_def, apply_ite UInt64.toNat]
  simp only [UInt64.le_iff_toNat_le]

@[simp] theorem toNat_max (left right : UInt64) :
    (max left right).toNat = max left.toNat right.toNat := by
  change (if left ≤ right then right else left).toNat = _
  rw [Nat.max_def, apply_ite UInt64.toNat]
  simp only [UInt64.le_iff_toNat_le]

/-- Counting on from below a word does not wrap. -/
theorem toNat_succ_of_lt {word bound : UInt64} (below : word < bound) :
    (word + 1).toNat = word.toNat + 1 := by
  have limited := bound.toNat_lt
  rw [UInt64.lt_iff_toNat_lt] at below
  rw [UInt64.toNat_add]
  exact Nat.mod_eq_of_lt (by simp only [UInt64.toNat_one]; omega)

theorem toNat_add_ofNat
    {word : UInt64}
    {count : Nat}
    (room : word.toNat + count < 2 ^ 64) :
    (word + UInt64.ofNat count).toNat = word.toNat + count := by
  rw [UInt64.toNat_add, UInt64.toNat_ofNat', Nat.add_mod_mod]
  exact Nat.mod_eq_of_lt room

/-- The largest word is above all words. -/
theorem le_limit (word : UInt64) : word ≤ UInt64.ofNat limit := by
  have bound := word.toNat_lt
  rw [UInt64.le_iff_toNat_le]
  change word.toNat ≤ 2 ^ 64 - 1
  omega

/-- The least of some words is no greater than the greatest of them. -/
theorem min?_le_max?
    {words : List UInt64}
    {least greatest : UInt64}
    (smallest : words.min? = some least)
    (largest : words.max? = some greatest) :
    least ≤ greatest := by
  obtain ⟨member, _⟩ := List.min?_eq_some_iff.mp smallest
  exact (List.max?_eq_some_iff.mp largest).2 least member

theorem min?_eq_of_perm
    {left right : List UInt64}
    (same : left.Perm right) :
    left.min? = right.min? := by
  cases least : right.min? with
  | none =>
      rw [List.min?_eq_none_iff] at least ⊢
      exact List.perm_nil.mp (least ▸ same)
  | some word =>
      obtain ⟨member, lower⟩ := List.min?_eq_some_iff.mp least
      apply List.min?_eq_some_iff.mpr
      refine ⟨same.mem_iff.mpr member, ?_⟩
      intro other present
      exact lower other (same.mem_iff.mp present)

theorem max?_eq_of_perm
    {left right : List UInt64}
    (same : left.Perm right) :
    left.max? = right.max? := by
  cases greatest : right.max? with
  | none =>
      rw [List.max?_eq_none_iff] at greatest ⊢
      exact List.perm_nil.mp (greatest ▸ same)
  | some word =>
      obtain ⟨member, upper⟩ := List.max?_eq_some_iff.mp greatest
      apply List.max?_eq_some_iff.mpr
      refine ⟨same.mem_iff.mpr member, ?_⟩
      intro other present
      exact upper other (same.mem_iff.mp present)

end Word
end LatencyMeter

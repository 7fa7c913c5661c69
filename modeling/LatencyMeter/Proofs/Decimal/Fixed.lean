import LatencyMeter.Decimal.Fixed
import LatencyMeter.Proofs.Binary.Arithmetic
import LatencyMeter.Proofs.Decimal.Literal

/-!
# Reading back a fixed number of decimal places

A double is written with decimal places by rounding it to a whole number of units of the last
place. The text is a literal of exactly that number of units, so all that is lost is lost in
rounding: half a unit of the last place, and what the double itself is away from the number that
was meant.
-/

namespace LatencyMeter
namespace Decimal

/-! ## Digits with zeros in front -/

/-- Zeros in front do not change what digits denote. -/
theorem denotes_padded (count value : Nat) : Denotes (padded count value) value where
  nonempty := List.append_ne_nil_of_right_ne_nil _ Nat.toDigits_ne_nil
  isDigit := by
    refine List.forall_mem_append.mpr ⟨fun character member => ?_, (denotes_toDigits value).isDigit⟩
    obtain rfl := List.eq_of_mem_replicate member
    decide
  value_eq := by
    rw [padded, Nat.ofDigitChars_append, Nat.ofDigitChars_replicate_zero, Nat.mul_zero]
    exact (denotes_toDigits value).value_eq

theorem length_padded
    {count value : Nat}
    (positive : 0 < count)
    (fits : value < 10 ^ count) :
    (padded count value).length = count := by
  have short := (Nat.length_toDigits_le_iff (by decide) positive).mpr fits
  rw [padded, List.length_append, List.length_replicate]
  omega

/-- Digits behind digits denote the sum of both, each in its place. -/
theorem Denotes.append
    {before after : List Char}
    {high low : Nat}
    (first : Denotes before high)
    (second : Denotes after low) :
    Denotes (before ++ after) (high * Nat.pow 10 after.length + low) where
  nonempty := List.append_ne_nil_of_left_ne_nil first.nonempty _
  isDigit := List.forall_mem_append.mpr ⟨first.isDigit, second.isDigit⟩
  value_eq := by rw [ofDigitChars_append, first.value_eq, second.value_eq]

/-- A number of units of the last place is written as a literal of that number. -/
theorem spelled_withPoint (places units : Nat) :
    Literal.Spelled (withPoint places units) (.finite false units (-places)) := by
  have pointed : Literal.Pointed (withPoint places units) units places := by
    unfold withPoint
    split
    next none =>
      rw [none]
      exact .whole (denotes_padded 1 units)
    next some =>
      have length := length_padded (Nat.pos_of_ne_zero some)
        (Nat.mod_lt units (Nat.pow_pos (by decide : 0 < 10)))
      have both := (denotes_padded 1 (units / 10 ^ places)).append
        (denotes_padded places (units % 10 ^ places))
      rw [length, Nat.pow_eq, Nat.div_add_mod'] at both
      have fraction := Literal.Pointed.fraction both
      rwa [length] at fraction
  have unsigned : Literal.Unsigned false (withPoint places units ++ []) _ :=
    .finite pointed .absent
  rw [List.append_nil, zero_sub] at unsigned
  exact .intro .unsigned unsigned

theorem of_mem_withPoint
    {places units : Nat}
    {character : Char}
    (member : character ∈ withPoint places units) :
    character.isDigit = true ∨ character = '.' := by
  unfold withPoint at member
  split at member
  · exact .inl ((denotes_padded _ _).isDigit _ member)
  · rcases List.mem_append.mp member with before | behind
    · exact .inl ((denotes_padded _ _).isDigit _ before)
    · rcases List.mem_cons.mp behind with point | after
      · exact .inr point
      · exact .inl ((denotes_padded _ _).isDigit _ after)

/-- The exact number that a literal denotes, if it is finite. -/
def Literal.exact? : Literal -> Option ℚ
  | .finite negative significand exponent =>
      some ((if negative then -1 else 1) * significand * 10 ^ exponent)
  | _ => none

/-- A number of units of the last place reads back exactly. -/
theorem exact?_withPoint (places units : Nat) :
    (Literal.parse? (withPoint places units)).bind Literal.exact? =
      some (units / 10 ^ places : ℚ) := by
  rw [(Literal.parse?_eq_some_iff _ _).mpr (spelled_withPoint places units), Option.bind_some,
    Literal.exact?, if_neg Bool.false_ne_true, one_mul, zpow_neg, zpow_natCast, div_eq_mul_inv]

/-! ## Rounding to the last place -/

/-- A double as a whole number of units of the last of `places` decimal places. -/
def placeUnits (places : Nat) (number : Float) : Nat :=
  match Binary.read number with
  | .finite _ magnitude =>
      roundDiv .toEven (magnitude.numerator * Nat.pow 10 places) magnitude.denominator
  | _ => 0

section Near

open Binary

variable {count : Nat} {exact : ℚ} {number : Float}

/-- What is written is the number of units of the last place. -/
theorem fixedChars_of_near
    (near : Near count exact number)
    (places : Nat) :
    fixedChars places number = withPoint places (placeUnits places number) := by
  obtain ⟨magnitude, given, _, _⟩ := near
  rw [fixedChars, placeUnits, given]
  rfl

/-- A double is rounded to the last place by half a unit of it at most. -/
theorem placeUnits_bounds
    (near : Near count exact number)
    (places : Nat) :
    2 * 10 ^ places * (exact * (1 - 1 / 2 ^ 53) ^ count) ≤ 2 * placeUnits places number + 1 ∧
      2 * placeUnits places number ≤
        2 * 10 ^ places * (exact * (1 + 1 / 2 ^ 53) ^ count) + 1 := by
  obtain ⟨magnitude, given, _, lower, upper⟩ := near
  have scale : (0 : ℚ) < 2 * 10 ^ places := by positivity
  have positive : (0 : ℚ) < magnitude.denominator := by exact_mod_cast magnitude.denominator_pos
  obtain ⟨least, most⟩ := roundDiv_near .toEven (magnitude.numerator * Nat.pow 10 places)
    magnitude.denominator_pos
  have units : placeUnits places number = roundDiv .toEven
      (magnitude.numerator * Nat.pow 10 places) magnitude.denominator := by
    rw [placeUnits, given]
  rw [← units, Nat.pow_eq] at least most
  have value := magnitude.value_eq_quotient
  rw [eq_div_iff positive.ne'] at value
  have least' : (2 * (magnitude.numerator * 10 ^ places) : ℚ) ≤
      (2 * placeUnits places number + 1) * magnitude.denominator := by
    exact_mod_cast least
  have most' : (2 * placeUnits places number * magnitude.denominator : ℚ) ≤
      2 * (magnitude.numerator * 10 ^ places) + magnitude.denominator := by
    exact_mod_cast most
  rw [← value] at least' most'
  constructor
  · refine (mul_le_mul_of_nonneg_left lower scale.le).trans ?_
    refine le_of_mul_le_mul_right ?_ positive
    linarith
  · refine le_trans ?_ (add_le_add_left (mul_le_mul_of_nonneg_left upper scale.le) 1)
    refine le_of_mul_le_mul_right ?_ positive
    linarith

end Near

end Decimal
end LatencyMeter

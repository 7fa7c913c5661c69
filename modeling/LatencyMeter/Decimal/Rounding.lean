/-!
# Rounding a quotient

The whole number nearest to a quotient of natural numbers. When the quotient lies
halfway between two whole numbers a rule for ties decides: the even one of the
two, or the larger one, which is the one away from zero.
-/

namespace LatencyMeter
namespace Decimal

/-- Which of two equally near whole numbers is taken. -/
inductive Tie
  | toEven
  | awayFromZero
  deriving DecidableEq

/-- The whole number nearest to `numerator / denominator`. -/
def roundDiv (tie : Tie) (numerator denominator : Nat) : Nat :=
  let quotient := numerator / denominator
  let rest := numerator % denominator
  if 2 * rest < denominator then
    quotient
  else if denominator < 2 * rest then
    quotient + 1
  else
    match tie with
    | .toEven => quotient + quotient % 2
    | .awayFromZero => quotient + 1

/-- A rounded quotient is within half a unit of the quotient. -/
theorem roundDiv_near (tie : Tie) (numerator : Nat) {denominator : Nat}
    (positive : 0 < denominator) :
    2 * numerator ≤ (2 * roundDiv tie numerator denominator + 1) * denominator ∧
      2 * roundDiv tie numerator denominator * denominator ≤
        2 * numerator + denominator := by
  have split := Nat.div_add_mod numerator denominator
  have small := Nat.mod_lt numerator positive
  have parity := Nat.mod_lt (numerator / denominator) (by decide : 0 < 2)
  unfold roundDiv
  generalize numerator / denominator = quotient at *
  generalize numerator % denominator = rest at *
  have scaled : denominator * quotient = quotient * denominator := Nat.mul_comm _ _
  dsimp only
  split
  · constructor <;> grind
  · split
    · constructor <;> grind
    · cases tie with
      | awayFromZero => constructor <;> grind
      | toEven =>
          dsimp only
          have cases : quotient % 2 = 0 ∨ quotient % 2 = 1 := by omega
          rcases cases with even | odd
          · rw [even]
            constructor <;> grind
          · rw [odd]
            constructor <;> grind

example : roundDiv .toEven 5 2 = 2 ∧ roundDiv .awayFromZero 5 2 = 3 := by decide

example : roundDiv .toEven 7 2 = 4 ∧ roundDiv .toEven 7 3 = 2 := by decide

end Decimal
end LatencyMeter

import Mathlib.Data.Nat.Digits.Defs

/-!
# Reading digits from the front of a text

Numbers are read in several places, each with a count of digits, a value and limits of its
own. All of these readers take one digit after the other and make of it the same step, and so
all of them read the digits that a number is written with as that number and leave what stands
behind them.
-/

namespace LatencyMeter
namespace Decimal

variable {base number : Nat}

/-- A number is a single digit or has one more digit than another number. -/
theorem digit_induction
    {motive : Nat -> Prop}
    (several : 1 < base)
    (single : forall digit, digit < base -> motive digit)
    (append : forall front digit,
      0 < front -> digit < base -> motive front -> motive (front * base + digit))
    (number : Nat) :
    motive number := by
  induction number using Nat.strongRecOn with
  | ind number hypothesis =>
      by_cases small : number < base
      · exact single number small
      · have large : base ≤ number := Nat.not_lt.mp small
        have positive : 0 < base := Nat.lt_trans Nat.zero_lt_one several
        have shorter : number / base < number :=
          Nat.div_lt_self (Nat.lt_of_lt_of_le positive large) several
        rw [← Nat.div_add_mod' number base]
        exact append _ _ (Nat.div_pos large positive) (Nat.mod_lt _ positive)
          (hypothesis _ shorter)

/-- One more digit is written behind the others. -/
theorem toDigits_append
    {front digit : Nat}
    (several : 1 < base)
    (positive : 0 < front)
    (small : digit < base) :
    Nat.toDigits base (front * base + digit) = Nat.toDigits base front ++ [digit.digitChar] := by
  rw [Nat.mul_comm, ← Nat.toDigits_append_toDigits several positive small,
    Nat.toDigits_of_lt_base small]

theorem exists_cons_toDigits (base number : Nat) :
    exists first others, Nat.toDigits base number = first :: others :=
  List.exists_cons_of_ne_nil Nat.toDigits_ne_nil

/-- A reader that takes digits one by one, as long as the count and the value are within its
limits, reads a number with its digits. -/
theorem reads_toDigits
    {room limit : Nat}
    (several : 1 < base)
    (reads : Nat -> Nat -> List Char -> α)
    (each : forall count value digit rest,
      count < room -> digit < base -> value * base + digit ≤ limit ->
        reads count value (digit.digitChar :: rest) =
          reads (count + 1) (value * base + digit) rest)
    (within : number ≤ limit)
    (fits : (Nat.toDigits base number).length ≤ room)
    (more : List Char) :
    reads 0 0 (Nat.toDigits base number ++ more) =
      reads (Nat.toDigits base number).length number more := by
  induction number using digit_induction several generalizing more with
  | single digit small =>
      rw [Nat.toDigits_of_lt_base small] at fits ⊢
      simpa using each 0 0 digit more fits small (by simpa using within)
  | append front digit positive small hypothesis =>
      rw [toDigits_append several positive small, List.length_append,
        List.length_singleton] at fits ⊢
      have less : front ≤ front * base := Nat.le_mul_of_pos_right _ (by omega)
      rw [List.append_assoc, hypothesis (by omega) (Nat.le_of_lt fits), List.singleton_append,
        each _ _ _ _ fits small within]

/-- A number is written with digits of its base. -/
theorem exists_of_mem_toDigits
    (several : 1 < base)
    {character : Char}
    (member : character ∈ Nat.toDigits base number) :
    exists digit, digit < base ∧ character = digit.digitChar := by
  induction number using digit_induction several with
  | single digit small =>
      rw [Nat.toDigits_of_lt_base small] at member
      exact ⟨digit, small, List.mem_singleton.mp member⟩
  | append front digit positive small hypothesis =>
      rw [toDigits_append several positive small] at member
      rcases List.mem_append.mp member with earlier | last
      · exact hypothesis earlier
      · exact ⟨digit, small, List.mem_singleton.mp last⟩

/-- Only zero is written with a zero in front. -/
theorem eq_zero_of_toDigits
    (several : 1 < base)
    {rest : List Char}
    (begins : Nat.toDigits base number = '0' :: rest) :
    number = 0 := by
  induction number using digit_induction several generalizing rest with
  | single digit small =>
      rw [Nat.toDigits_of_lt_base small] at begins
      exact Nat.digitChar_eq_zero.mp (List.cons.inj begins).1
  | append front digit positive small hypothesis =>
      rw [toDigits_append several positive small] at begins
      obtain ⟨first, others, same⟩ := exists_cons_toDigits base front
      rw [same] at begins
      obtain ⟨rfl, _⟩ := List.cons.inj begins
      exact absurd (hypothesis same) positive.ne'

/-- A zero in front is the whole of a number. -/
theorem zero_of_toDigits
    (several : 1 < base)
    {rest : List Char}
    (begins : Nat.toDigits base number = '0' :: rest) :
    number = 0 ∧ rest = [] := by
  obtain rfl := eq_zero_of_toDigits several begins
  exact ⟨rfl, by simpa using begins.symm⟩

end Decimal
end LatencyMeter

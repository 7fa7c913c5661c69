import LatencyMeter.Decimal.Natural
import Mathlib.Data.Nat.Digits.Defs

/-!
# Which texts denote whole numbers

A whole number is read from an optional plus sign and at least one digit, zeros in front
included. What the digits denote is their value in base ten; it has to be within the limit.
Every number is read back from the digits that it is written with.
-/

namespace LatencyMeter
namespace Decimal

/-- Digits denote their value in base ten; there is at least one. -/
structure Denotes (digits : List Char) (value : Nat) : Prop where
  nonempty : digits ≠ []
  isDigit : forall character, character ∈ digits -> character.isDigit = true
  value_eq : Nat.ofDigitChars 10 digits 0 = value

/-! ## Single digits -/

theorem isDigit_iff (character : Char) :
    character.isDigit = true ↔ '0' ≤ character ∧ character ≤ '9' := by
  simp only [Char.isDigit, Bool.and_eq_true, decide_eq_true_eq, Char.le_def]

theorem digit?_of_isDigit
    {character : Char}
    (isDigit : character.isDigit = true) :
    digit? character = some (character.toNat - '0'.toNat) :=
  if_pos ((isDigit_iff character).mp isDigit)

@[simp] theorem digit?_eq_none_iff (character : Char) :
    digit? character = none ↔ character.isDigit = false := by
  rw [← Bool.not_eq_true, isDigit_iff]
  simp [digit?]

/-- The value that digits denote behind a value already read is no smaller than that value. -/
theorem le_ofDigitChars (digits : List Char) (value : Nat) :
    value ≤ Nat.ofDigitChars 10 digits value := by
  induction digits generalizing value with
  | nil => exact Nat.le_refl value
  | cons first rest hypothesis =>
      rw [Nat.ofDigitChars_cons]
      exact Nat.le_trans (by omega) (hypothesis _)

/-! ## Reading -/

/-- Digits are read if they are nothing but digits and what they denote is within the limit. -/
theorem naturalDigits_eq_ok_iff
    {limit value result : Nat}
    (within : value ≤ limit)
    (text : List Char) :
    naturalDigits limit value text = .ok result ↔
      (forall character, character ∈ text -> character.isDigit = true) ∧
        Nat.ofDigitChars 10 text value = result ∧ result ≤ limit := by
  induction text generalizing value with
  | nil =>
      rw [naturalDigits_nil, Except.ok.injEq, Nat.ofDigitChars_nil]
      constructor
      · rintro rfl
        exact ⟨by simp, rfl, within⟩
      · rintro ⟨_, same, _⟩
        exact same
  | cons first rest hypothesis =>
      rw [naturalDigits, Nat.ofDigitChars_cons, List.forall_mem_cons]
      cases isDigit : first.isDigit with
      | false => simp [(digit?_eq_none_iff first).mpr isDigit]
      | true =>
          rw [digit?_of_isDigit isDigit]
          dsimp only
          rw [Nat.mul_comm]
          split
          · next fits => simpa using hypothesis fits
          · next exceeds =>
            -- What the remaining digits add only makes the number larger.
            have larger := le_ofDigitChars rest (10 * value + (first.toNat - '0'.toNat))
            constructor
            · intro impossible
              contradiction
            · rintro ⟨_, same, fits⟩
              omega

/-- At least one digit is read exactly as the number that the digits denote. -/
theorem naturalDigits_eq_ok_iff_denotes
    (limit value : Nat)
    {digits : List Char}
    (nonempty : digits ≠ []) :
    naturalDigits limit 0 digits = .ok value ↔ value ≤ limit ∧ Denotes digits value := by
  rw [naturalDigits_eq_ok_iff (Nat.zero_le limit)]
  constructor
  · rintro ⟨isDigit, same, within⟩
    exact ⟨within, nonempty, isDigit, same⟩
  · rintro ⟨within, _, isDigit, same⟩
    exact ⟨isDigit, same, within⟩

/-- A plus sign is no digit. -/
theorem Denotes.no_plus
    {rest : List Char}
    {value : Nat}
    (denotes : Denotes ('+' :: rest) value) :
    False := by
  have isDigit := denotes.isDigit '+' List.mem_cons_self
  contradiction

/-- A text is read as a number exactly if it is digits that denote it, with or without a plus
sign in front of them, and the number is within the limit. -/
theorem natural?_eq_ok_iff (limit : Nat) (text : List Char) (value : Nat) :
    natural? limit text = .ok value ↔
      value ≤ limit ∧
        exists sign digits,
          text = sign ++ digits ∧ (sign = [] ∨ sign = ['+']) ∧ Denotes digits value := by
  unfold natural?
  split
  · next =>
    constructor
    · intro impossible
      contradiction
    · rintro ⟨_, sign, digits, empty, _, denotes⟩
      exact absurd (List.append_eq_nil_iff.mp empty.symm).2 denotes.nonempty
  · next =>
    constructor
    · intro impossible
      contradiction
    · rintro ⟨_, sign, digits, same, rfl | rfl, denotes⟩
      · obtain rfl : ['+'] = digits := same
        exact denotes.no_plus.elim
      · exact absurd (List.cons.inj same).2.symm denotes.nonempty
  · next digits alone =>
    rw [naturalDigits_eq_ok_iff_denotes limit value (by rintro rfl; exact alone rfl)]
    refine and_congr_right fun _ => ⟨fun denotes => ⟨['+'], digits, rfl, .inr rfl, denotes⟩, ?_⟩
    rintro ⟨sign, others, same, rfl | rfl, denotes⟩
    · obtain rfl : '+' :: digits = others := same
      exact denotes.no_plus.elim
    · exact (List.cons.inj same).2 ▸ denotes
  · next nonempty _ unsigned =>
    rw [naturalDigits_eq_ok_iff_denotes limit value nonempty]
    refine and_congr_right fun _ => ⟨fun denotes => ⟨[], text, rfl, .inl rfl, denotes⟩, ?_⟩
    rintro ⟨sign, others, same, rfl | rfl, denotes⟩
    · exact same ▸ denotes
    · exact absurd same (unsigned others)

/-! ## Reading what was written -/

/-- The digits of a number denote it. -/
theorem denotes_toDigits (value : Nat) : Denotes (Nat.toDigits 10 value) value where
  nonempty := Nat.toDigits_ne_nil
  isDigit := fun _ member => Nat.isDigit_of_mem_toDigits (by decide) (by decide) member
  value_eq := Nat.ofDigitChars_ten_toDigits

end Decimal
end LatencyMeter

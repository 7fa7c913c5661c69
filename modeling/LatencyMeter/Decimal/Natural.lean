/-!
# Whole numbers in decimal

A whole number is written with the fewest decimal digits. It is read with an
optional plus sign, any number of leading zeros and an upper limit; what is wrong
with a text is the first thing met when it is read from left to right.
-/

namespace LatencyMeter
namespace Decimal

/-- The value of a decimal digit, if the character is one. -/
def digit? (character : Char) : Option Nat :=
  if '0' ≤ character ∧ character ≤ '9' then
    some (character.toNat - '0'.toNat)
  else
    none

@[simp] theorem digit?_digitChar {value : Nat} (small : value < 10) :
    digit? value.digitChar = some value := by
  have table : ∀ number, number < 10 -> digit? number.digitChar = some number := by decide
  exact table value small

/-- The characters of a whole number in decimal. -/
def natural (value : Nat) : List Char :=
  Nat.toDigits 10 value

/-- Why a text is not a whole number within a limit. -/
inductive NaturalFault
  | empty
  | invalidDigit
  | tooLarge
  deriving DecidableEq, Repr

/-- The wording of a number fault. -/
def NaturalFault.message : NaturalFault -> String
  | .empty => "cannot parse integer from empty string"
  | .invalidDigit => "invalid digit found in string"
  | .tooLarge => "number too large to fit in target type"

/-- Read digits behind a value already read, refusing anything beyond the limit. -/
def naturalDigits (limit : Nat) : Nat -> List Char -> Except NaturalFault Nat
  | value, [] => .ok value
  | value, character :: rest =>
      match digit? character with
      | none => .error .invalidDigit
      | some digit =>
          if value * 10 + digit ≤ limit then
            naturalDigits limit (value * 10 + digit) rest
          else
            .error .tooLarge

@[simp] theorem naturalDigits_nil (limit value : Nat) :
    naturalDigits limit value [] = .ok value := rfl

/-- Read a whole number up to a limit, with an optional plus sign. -/
def natural? (limit : Nat) : List Char -> Except NaturalFault Nat
  | [] => .error .empty
  | ['+'] => .error .invalidDigit
  | '+' :: digits => naturalDigits limit 0 digits
  | digits => naturalDigits limit 0 digits

example : (natural? 255 "+0255".toList).toOption = some 255 := by decide

example : natural? 255 "256".toList = .error .tooLarge := rfl

example : natural? 255 "".toList = .error .empty := rfl

example : natural? 255 "99-".toList = .error .invalidDigit := rfl

end Decimal
end LatencyMeter

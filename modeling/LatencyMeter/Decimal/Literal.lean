import LatencyMeter.Decimal.Binary
import LatencyMeter.Decimal.Natural

/-!
# Decimal literals

The texts that denote a double: an optional sign, then digits with an optional
point and an optional exponent, or a word for an infinite or undefined value in
any case of letters. A literal is first read as an exact decimal number; its value
is the nearest double.
-/

namespace LatencyMeter
namespace Decimal

/-- The leading digits of a text, as a number and a count, and what follows them. -/
structure DigitRun where
  value : Nat
  count : Nat
  rest : List Char

/-- The longest run of digits at the front of a text. -/
def digitRun (text : List Char) : DigitRun :=
  let digits := text.takeWhile fun character => (digit? character).isSome
  { value := digits.foldl (fun value character => value * 10 + (digit? character).getD 0) 0
    count := digits.length
    rest := text.dropWhile fun character => (digit? character).isSome }

/-- What a decimal literal denotes, before rounding to a double. -/
inductive Literal
  | notANumber
  | infinite (negative : Bool)
  | finite (negative : Bool) (significand : Nat) (exponent : Int)
  deriving DecidableEq, Repr

namespace Literal

/-- A letter of the words for special values, in lower case. -/
def lower (character : Char) : Char :=
  if 'A' ≤ character ∧ character ≤ 'Z' then
    Char.ofNat (character.toNat + 32)
  else
    character

/-- The exponent behind a literal's digits; nothing else may follow. -/
def exponent? : List Char -> Option Int
  | [] => some 0
  | mark :: rest =>
      if mark = 'e' ∨ mark = 'E' then
        let (negative, digits) :=
          match rest with
          | '-' :: digits => (true, digits)
          | '+' :: digits => (false, digits)
          | digits => (false, digits)
        let run := digitRun digits
        if run.count = 0 ∨ run.rest ≠ [] then none
        else some (if negative then -(run.value : Int) else run.value)
      else
        none

/-- A literal without its sign. -/
def unsigned? (negative : Bool) (text : List Char) : Option Literal :=
  let word := text.map lower
  if word = "inf".toList ∨ word = "infinity".toList then
    some (.infinite negative)
  else if word = "nan".toList then
    some .notANumber
  else
    let whole := digitRun text
    let fraction : DigitRun :=
      match whole.rest with
      | '.' :: rest => digitRun rest
      | rest => ⟨0, 0, rest⟩
    if whole.count + fraction.count = 0 then
      none
    else
      (exponent? fraction.rest).map fun exponent =>
        .finite negative (whole.value * Nat.pow 10 fraction.count + fraction.value)
          (exponent - fraction.count)

/-- Read a literal; the whole text has to be one. -/
def parse? : List Char -> Option Literal
  | '-' :: text => unsigned? true text
  | '+' :: text => unsigned? false text
  | text => unsigned? false text

/-- The bits of the double nearest to `significand * 10 ^ exponent`. -/
def nearestBits (significand : Nat) (exponent : Int) : Nat :=
  let position := (Nat.toDigits 10 significand).length + exponent
  if significand = 0 ∨ position < -330 then
    0
  else if 320 < position then
    Binary.nearestBits (Nat.pow 2 1024) 1
  else
    Binary.nearestBits (significand * Nat.pow 10 exponent.toNat) (Nat.pow 10 (-exponent).toNat)

/-- The double that a literal denotes. -/
def toFloat : Literal -> Float
  | .notANumber => Float.ofBits 0x7ff8000000000000
  | .infinite negative =>
      Float.ofBits (if negative then 0xfff0000000000000 else 0x7ff0000000000000)
  | .finite negative significand exponent =>
      Float.ofBits
        (UInt64.ofNat
          ((if negative then 9223372036854775808 else 0) + nearestBits significand exponent))

end Literal

/-- The double that a text denotes, if it is a literal. -/
def float? (text : List Char) : Option Float :=
  (Literal.parse? text).map Literal.toFloat

example : Literal.parse? "-12.50e3".toList = some (.finite true 1250 1) := by decide +kernel

example : Literal.parse? ".5".toList = some (.finite false 5 (-1)) ∧
    Literal.parse? ".".toList = none ∧ Literal.parse? "1e".toList = none := by decide +kernel

example : Literal.nearestBits 1 23 = 0x44b52d02c7e14af6 := by decide +kernel

end Decimal
end LatencyMeter

import LatencyMeter.Decimal.Binary

/-!
# Fixed decimal places

A double written with a fixed number of decimal places: the exact value is
rounded once, a half going to the even neighbour. The sign of a negative number
stays even when every digit is zero.
-/

namespace LatencyMeter
namespace Decimal

/-- The digits of a whole number, with zeros in front up to a least count. -/
def padded (count value : Nat) : List Char :=
  let digits := Nat.toDigits 10 value
  List.replicate (count - digits.length) '0' ++ digits

/-- A whole number of units of the last of `places` decimal places. -/
def withPoint (places units : Nat) : List Char :=
  if places = 0 then
    padded 1 units
  else
    padded 1 (units / Nat.pow 10 places) ++ '.' :: padded places (units % Nat.pow 10 places)

/-- The characters of a double with a fixed number of decimal places. -/
def fixedChars (places : Nat) (number : Float) : List Char :=
  match Binary.read number with
  | .notANumber => "NaN".toList
  | .infinite negative => if negative then "-inf".toList else "inf".toList
  | .finite negative magnitude =>
      let units :=
        roundDiv .toEven (magnitude.numerator * Nat.pow 10 places) magnitude.denominator
      (if negative then ['-'] else []) ++ withPoint places units

/-- The text of a double with a fixed number of decimal places. -/
def fixed (places : Nat) (number : Float) : String :=
  String.ofList (fixedChars places number)

example : fixedChars 2 1.005 = "1.00".toList := by decide +kernel

example : fixedChars 0 2.5 = ['2'] ∧ fixedChars 0 (-0.25) = ['-', '0'] := by decide +kernel

end Decimal
end LatencyMeter

import LatencyMeter.Decimal.Rounding

/-!
# Doubles as exact numbers

A finite double is a whole number times a power of two, and that is how the
decimal printers see it: they work on exact natural numbers and never on rounded
arithmetic. In the other direction `nearest` is the double nearest to a quotient
of natural numbers, with ties to the even significand.
-/

namespace LatencyMeter
namespace Binary

/-- The number `significand * 2 ^ exponent`. -/
structure Magnitude where
  significand : Nat
  exponent : Int
  deriving DecidableEq, Repr

namespace Magnitude

/-- The numerator of the number as a quotient. -/
def numerator (magnitude : Magnitude) : Nat :=
  magnitude.significand * Nat.pow 2 magnitude.exponent.toNat

/-- The denominator of the number as a quotient. -/
def denominator (magnitude : Magnitude) : Nat :=
  Nat.pow 2 (-magnitude.exponent).toNat

theorem denominator_pos (magnitude : Magnitude) : 0 < magnitude.denominator :=
  Nat.two_pow_pos _

end Magnitude

/-- What a double denotes. -/
inductive Reading
  | notANumber
  | infinite (negative : Bool)
  | finite (negative : Bool) (magnitude : Magnitude)
  deriving DecidableEq, Repr

/-- The highest bit of a significand, which is not stored. -/
def hiddenBit : Nat := 4503599627370496

/-- Least exponent of a finite double. -/
def leastExponent : Int := -1074

/-- What the double with the given bits denotes. -/
def readBits (bits : Nat) : Reading :=
  let negative := bits / 9223372036854775808 == 1
  let exponent := bits / hiddenBit % 2048
  let fraction := bits % hiddenBit
  if exponent = 2047 then
    if fraction = 0 then .infinite negative else .notANumber
  else if exponent = 0 then
    .finite negative ⟨fraction, leastExponent⟩
  else
    .finite negative ⟨fraction + hiddenBit, leastExponent + (exponent - 1 : Nat)⟩

/-- What a double denotes. -/
def read (number : Float) : Reading :=
  readBits number.toBits.toNat

/-- Whether a double is neither infinite nor the result of an undefined operation. -/
def isFinite (number : Float) : Bool :=
  match read number with
  | .finite _ _ => true
  | _ => false

/-- The exponent of the last place of the double nearest to a positive quotient. -/
def placeExponent (numerator denominator : Nat) : Int :=
  let guess : Int := (Nat.log2 numerator : Int) - Nat.log2 denominator - 53
  let whole :=
    numerator * Nat.pow 2 (-guess).toNat / (denominator * Nat.pow 2 guess.toNat)
  max leastExponent (if whole < 2 * hiddenBit then guess else guess + 1)

/-- The bits of the nonnegative double nearest to a quotient. -/
def nearestBits (numerator denominator : Nat) : Nat :=
  if numerator = 0 then
    0
  else
    let exponent := placeExponent numerator denominator
    let significand :=
      Decimal.roundDiv .toEven (numerator * Nat.pow 2 (-exponent).toNat)
        (denominator * Nat.pow 2 exponent.toNat)
    let bits := (exponent - leastExponent).toNat * hiddenBit + significand
    min bits (2047 * hiddenBit)

/-- The nonnegative double nearest to a quotient; too large a quotient is infinite. -/
def nearest (numerator denominator : Nat) : Float :=
  Float.ofBits (UInt64.ofNat (nearestBits numerator denominator))

example : nearestBits 1 10 = 0x3fb999999999999a := by decide +kernel

example : nearestBits 9007199254740993 1 = 0x4340000000000000 := by decide +kernel

example : nearestBits (2 ^ 1024) 1 = 0x7ff0000000000000 := by decide +kernel

example : nearestBits 1 (2 ^ 1074) = 1 ∧ nearestBits 1 (2 ^ 1075) = 0 ∧
    nearestBits 3 (2 ^ 1075) = 2 := by decide +kernel

end Binary
end LatencyMeter

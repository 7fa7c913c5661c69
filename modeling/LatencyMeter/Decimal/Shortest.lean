import LatencyMeter.Decimal.Binary

/-!
# Shortest decimal text of a double

Of all decimal numbers that a double is the nearest one to, the text shows one
with the fewest digits, and of those the one closest to the exact value. A number
with `count` digits is a point of the grid of multiples of a power of ten; on each
grid only the two neighbours of the exact value have to be tried.

How the digits are laid out is a matter of the document they stand in, and is kept
in a `Layout`.
-/

namespace LatencyMeter
namespace Decimal

/-- The number `0.digits * 10 ^ point`, where `digits` has no zero at either end. -/
structure Scientific where
  digits : Nat
  point : Int
  deriving DecidableEq, Repr

/-- The numbers that a double is the nearest one to, as quotients over one denominator. -/
structure Interval where
  lower : Nat
  value : Nat
  upper : Nat
  denominator : Nat
  closed : Bool

/-- The numbers nearest to a magnitude; the spacing below a power of two is half of that above. -/
def Interval.around (magnitude : Binary.Magnitude) : Interval :=
  let significand := magnitude.significand
  let scale := Nat.pow 2 magnitude.exponent.toNat
  let below :=
    if significand = Binary.hiddenBit ∧ Binary.leastExponent < magnitude.exponent then 1 else 2
  { lower := (4 * significand - below) * scale
    value := 4 * significand * scale
    upper := (4 * significand + 2) * scale
    denominator := 4 * magnitude.denominator
    closed := significand % 2 = 0 }

/-- Whether a quotient lies in the interval. -/
def Interval.contains (interval : Interval) (numerator denominator : Nat) : Bool :=
  let low := interval.lower * denominator
  let here := numerator * interval.denominator
  let high := interval.upper * denominator
  if interval.closed then low ≤ here && here ≤ high else low < here && here < high

/-- The least `point` with `numerator / denominator < 10 ^ point`, for a positive quotient. -/
def pointPosition (numerator denominator : Nat) : Int :=
  let guess : Int :=
    ((Nat.toDigits 10 numerator).length : Int) - (Nat.toDigits 10 denominator).length
  if numerator * Nat.pow 10 (-guess).toNat < denominator * Nat.pow 10 guess.toNat then
    guess
  else
    guess + 1

/-- The grid point nearest to the value among those of one grid that read back. -/
def gridPoint? (interval : Interval) (unit : Int) : Option Nat :=
  let up := Nat.pow 10 unit.toNat
  let down := Nat.pow 10 (-unit).toNat
  let low := interval.value * down / (interval.denominator * up)
  let reads (multiple : Nat) : Bool := interval.contains (multiple * up) down
  let twice := 2 * interval.value * down
  let middle := (2 * low + 1) * (interval.denominator * up)
  match reads low, reads (low + 1) with
  | false, false => none
  | true, false => some low
  | false, true => some (low + 1)
  | true, true =>
      if twice < middle then some low
      else if middle < twice then some (low + 1)
      else some (low + low % 2)

/-- Drop the zeros at the end of a digit sequence. -/
def dropZeros : Nat -> Nat -> Nat
  | 0, digits => digits
  | fuel + 1, digits =>
      if digits % 10 = 0 ∧ digits ≠ 0 then dropZeros fuel (digits / 10) else digits

/-- Try grids of more and more digits, from `count` on. -/
def shortestFrom (interval : Interval) (point : Int) : Nat -> Nat -> Scientific
  | 0, count =>
      let unit := point - count
      let low :=
        interval.value * Nat.pow 10 (-unit).toNat /
          (interval.denominator * Nat.pow 10 unit.toNat)
      ⟨dropZeros count low, point⟩
  | fuel + 1, count =>
      match gridPoint? interval (point - count) with
      | none => shortestFrom interval point fuel (count + 1)
      | some digits =>
          let carried := (Nat.toDigits 10 digits).length - count
          ⟨dropZeros (count + 1) digits, point + carried⟩

/-- The shortest decimal number that reads back as a positive magnitude. -/
def shortest (magnitude : Binary.Magnitude) : Scientific :=
  let interval := Interval.around magnitude
  shortestFrom interval (pointPosition interval.value interval.denominator) 17 1

/-- How a document lays out the digits of a number. -/
structure Layout where
  /-- Largest point position written without an exponent. -/
  positionalMax : Int
  /-- Least point position written without an exponent. -/
  positionalMin : Int
  /-- What follows the digits of a whole number. -/
  wholeSuffix : List Char
  /-- How an infinite or undefined number is written. -/
  undefinedText : List Char

/-- Digits with the point at a position inside, before or behind them. -/
def positional (layout : Layout) (digits : List Char) (point : Int) : List Char :=
  if (digits.length : Int) ≤ point then
    digits ++ List.replicate (point.toNat - digits.length) '0' ++ layout.wholeSuffix
  else if 0 < point then
    digits.take point.toNat ++ '.' :: digits.drop point.toNat
  else
    '0' :: '.' :: List.replicate (-point).toNat '0' ++ digits

/-- Digits with an exponent. -/
def exponential (digits : List Char) (point : Int) : List Char :=
  let exponent := point - 1
  let mark := 'e' :: ((if exponent < 0 then ['-'] else []) ++ Nat.toDigits 10 exponent.natAbs)
  match digits with
  | [] => mark
  | [only] => only :: mark
  | first :: rest => first :: '.' :: (rest ++ mark)

/-- The text of a double in a layout. -/
def Layout.chars (layout : Layout) (number : Float) : List Char :=
  match Binary.read number with
  | .notANumber => layout.undefinedText
  | .infinite _ => layout.undefinedText
  | .finite negative magnitude =>
      (if negative then ['-'] else []) ++
        if magnitude.significand = 0 then
          '0' :: layout.wholeSuffix
        else
          let decimal := shortest magnitude
          let digits := Nat.toDigits 10 decimal.digits
          if layout.positionalMin ≤ decimal.point ∧ decimal.point ≤ layout.positionalMax then
            positional layout digits decimal.point
          else
            exponential digits decimal.point

example : shortest ⟨1, -1074⟩ = ⟨5, -323⟩ := by decide +kernel

example : shortest ⟨2 ^ 52, 971⟩ = ⟨898846567431158, 308⟩ := by decide +kernel

end Decimal
end LatencyMeter

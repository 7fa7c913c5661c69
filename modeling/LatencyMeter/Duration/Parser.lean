import LatencyMeter.Decimal.Literal
import LatencyMeter.Duration
import LatencyMeter.Text.Blank

/-!
# Reading durations

A duration is written as a decimal literal and a unit, with blanks allowed around
both; without a unit the number counts seconds. The result is rounded to whole
nanoseconds, a half going up, and stops at the largest 64-bit count.
-/

namespace LatencyMeter
namespace Duration

/-- A unit that a duration may be written in. -/
inductive TimeUnit
  | microseconds
  | milliseconds
  | seconds
  | minutes
  | hours
  deriving DecidableEq, Repr

/-- The nanoseconds in one unit. -/
def TimeUnit.nanos : TimeUnit -> Float
  | .microseconds => 1000.0
  | .milliseconds => 1000000.0
  | .seconds => 1000000000.0
  | .minutes => 60000000000.0
  | .hours => 3600000000000.0

/-- Why a text is not a duration. -/
inductive Fault
  | empty
  | invalidNumber (text : String)
  | negative (text : String)
  deriving DecidableEq, Repr

/-- The wording of a duration fault. -/
def Fault.message : Fault -> String
  | .empty => "Duration cannot be empty"
  | .invalidNumber text => "Invalid number in duration: " ++ text
  | .negative text => "Duration must be a non-negative number: " ++ text

/-- Split the unit from the end of a text; the longer of two units that match is taken. -/
def splitUnit (text : List Char) : List Char × TimeUnit :=
  match text.reverse with
  | 's' :: 'm' :: number => (number.reverse, .milliseconds)
  | 's' :: 'u' :: number => (number.reverse, .microseconds)
  | 's' :: number => (number.reverse, .seconds)
  | 'm' :: number => (number.reverse, .minutes)
  | 'h' :: number => (number.reverse, .hours)
  | _ => (text, .seconds)

/-- A double rounded to a whole number, a half going up; too large a number is clamped. -/
def wholeNanos (number : Float) : UInt64 :=
  match Binary.read number with
  | .notANumber => 0
  | .infinite negative => if negative then 0 else Word.clamp Word.limit
  | .finite negative magnitude =>
      if negative then
        0
      else
        Word.clamp (Decimal.roundDiv .awayFromZero magnitude.numerator magnitude.denominator)

/-- Read a duration. -/
def parse (text : List Char) : Except Fault Duration :=
  let written := Text.trim text
  if written = [] then
    .error .empty
  else
    let (number, unit) := splitUnit written
    match Decimal.float? (Text.trim number) with
    | none => .error (.invalidNumber (String.ofList number))
    | some value =>
        if Binary.isFinite value && !(value < 0.0) then
          .ok (ofNanos (wholeNanos (value * unit.nanos)))
        else
          .error (.negative (String.ofList written))

end Duration
end LatencyMeter

import LatencyMeter.Decimal.Natural
import LatencyMeter.Text.Blank
import LatencyMeter.Timestamp

/-!
# Reading points in time

The date and the time of day are separated by the letter `T` or one blank and
followed by the offset from universal time. The parts need not be padded with
zeros and may have blanks before them; a year has a sign or at most four digits.
The offset is a letter, a name, or a sign with hours and minutes. Decimal places
beyond the ninth are dropped.
-/

namespace LatencyMeter
namespace Timestamp

/-- The leading digits of a text, at most `most` of them, as a count, a value and the rest. -/
def digitsUpTo : Nat -> Nat -> Nat -> List Char -> Nat × Nat × List Char
  | 0, count, value, text => (count, value, text)
  | _ + 1, count, value, [] => (count, value, [])
  | most + 1, count, value, character :: rest =>
      match Decimal.digit? character with
      | none => (count, value, character :: rest)
      | some digit => digitsUpTo most (count + 1) (value * 10 + digit) rest

/-- Read a number of at least one and at most `most` digits. -/
def digitNumber (most : Nat) (text : List Char) : Option (Nat × List Char) :=
  match digitsUpTo most 0 0 text with
  | (0, _, _) => none
  | (_ + 1, value, rest) => some (value, rest)

/-- Read a number of one or two digits with blanks before it, within limits. -/
def shortNumber (least greatest : Nat) (text : List Char) : Option (Nat × List Char) := do
  let (value, rest) <- digitNumber 2 (Text.trimStart text)
  if least ≤ value ∧ value ≤ greatest then some (value, rest) else none

/-- Read a year: with a sign and any number of digits, or without one and at most four. -/
def yearNumber (text : List Char) : Option (Int × List Char) :=
  match Text.trimStart text with
  | '-' :: rest => (digitNumber rest.length rest).map fun (value, rest) => (-(value : Int), rest)
  | '+' :: rest => (digitNumber rest.length rest).map fun (value, rest) => ((value : Int), rest)
  | text => (digitNumber 4 text).map fun (value, rest) => ((value : Int), rest)

/-- Read a separator with blanks before it. -/
def separator (expected : Char) (text : List Char) : Option (List Char) :=
  match Text.trimStart text with
  | [] => none
  | first :: rest => if first = expected then some rest else none

/-- Read the decimal places of a second, if there are any, as nanoseconds. -/
def fractionNumber : List Char -> Option (Nat × List Char)
  | '.' :: rest =>
      match digitsUpTo 9 0 0 rest with
      | (0, _, _) => none
      | (count, value, rest) =>
          some (value * Nat.pow 10 (9 - count),
            rest.dropWhile fun character => (Decimal.digit? character).isSome)
  | text => some (0, text)

/-- Read exactly two digits. -/
def twoDigits : List Char -> Option (Nat × List Char)
  | first :: second :: rest => do
      let first <- Decimal.digit? first
      let second <- Decimal.digit? second
      return (first * 10 + second, rest)
  | _ => none

/-- Read the hours and minutes of an offset, in seconds. -/
def offsetSize (text : List Char) : Option (Nat × List Char) := do
  let (hours, rest) <- twoDigits text
  let apart := rest.dropWhile fun character => character == ':' || Text.isBlank character
  let (minutes, rest) <- twoDigits apart
  if minutes < 60 then some (hours * 3600 + minutes * 60, rest) else none

/-- Read an offset from universal time, in seconds. -/
def offset : List Char -> Option (Int × List Char)
  | 'Z' :: rest => some (0, rest)
  | 'z' :: rest => some (0, rest)
  | '+' :: rest => (offsetSize rest).map fun (size, rest) => ((size : Int), rest)
  | '-' :: rest => (offsetSize rest).map fun (size, rest) => (-(size : Int), rest)
  | '−' :: rest => (offsetSize rest).map fun (size, rest) => (-(size : Int), rest)
  | first :: second :: third :: rest =>
      if (first = 'U' ∨ first = 'u') ∧ (second = 'T' ∨ second = 't') ∧
          (third = 'C' ∨ third = 'c') then
        some (0, rest)
      else
        none
  | _ => none

/-- Whether the calendar covers a year. -/
def isCoveredYear (year : Int) : Bool :=
  -262143 ≤ year && year ≤ 262142

/-- Read a point in time. -/
def parse? (text : List Char) : Option Timestamp := do
  let (year, text) <- yearNumber text
  let text <- separator '-' text
  let (month, text) <- shortNumber 1 12 text
  let text <- separator '-' text
  let (day, text) <- shortNumber 1 31 text
  let text <-
    match text with
    | first :: rest => if first = 'T' ∨ first = 't' ∨ first = ' ' then some rest else none
    | [] => none
  let (hour, text) <- shortNumber 0 23 text
  let text <- separator ':' text
  let (minute, text) <- shortNumber 0 59 text
  let text <- separator ':' text
  let (second, text) <- shortNumber 0 60 text
  let (fraction, text) <- fractionNumber text
  let (offset, text) <- offset (Text.trimStart text)
  let date : CivilDate := ⟨year, month, day⟩
  let inDay := hour * 3600 + minute * 60 + min second 59
  let timestamp : Timestamp :=
    { seconds := date.toDays * secondsPerDay + inDay - offset
      nanoseconds := fraction + if second = 60 then 1000000000 else 0 }
  if Text.trimStart text = [] ∧ date.isValid ∧ isCoveredYear year ∧
      isCoveredYear timestamp.date.year ∧ offset.natAbs < 86400 then
    some timestamp
  else
    none

example : (parse? "2024-02-29 1: 2:3.5+01:30 ".toList).map chars =
    some "2024-02-28T23:32:03.500Z".toList := by decide +kernel

example : parse? "2023-02-29T00:00:00Z".toList = none := by decide +kernel

end Timestamp
end LatencyMeter

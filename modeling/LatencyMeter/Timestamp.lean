import LatencyMeter.Decimal.Fixed

/-!
# Points in time

A point in time is a number of seconds since the beginning of 1970 and a number of
nanoseconds in that second. A leap second has no number of its own: it is the
second before it with a thousand million nanoseconds more. The text of a point in
time is its date and time of day in universal time, with as many groups of three
decimal places as it needs.
-/

namespace LatencyMeter

/-- A point in time. -/
structure Timestamp where
  /-- Whole seconds since the beginning of 1970. -/
  seconds : Int
  /-- Nanoseconds in the second; a thousand million and more in a leap second. -/
  nanoseconds : Nat
  deriving DecidableEq, Repr

/-- A day of the calendar. -/
structure CivilDate where
  year : Int
  month : Nat
  day : Nat
  deriving DecidableEq, Repr

namespace CivilDate

/-- Whether a year has a leap day. -/
def isLeapYear (year : Int) : Bool :=
  year % 4 == 0 && (year % 100 != 0 || year % 400 == 0)

/-- The number of days of a month. -/
def daysInMonth (year : Int) (month : Nat) : Nat :=
  if month = 2 then (if isLeapYear year then 29 else 28)
  else if month = 4 ∨ month = 6 ∨ month = 9 ∨ month = 11 then 30
  else 31

/-- Whether the calendar has the day. -/
def isValid (date : CivilDate) : Bool :=
  1 ≤ date.month && date.month ≤ 12 && 1 ≤ date.day &&
    date.day ≤ daysInMonth date.year date.month

/-- The number of days since the beginning of 1970. Years are counted from March, so that a
leap day is the last day of its year, in cycles of four hundred years. -/
def toDays (date : CivilDate) : Int :=
  let year := if date.month ≤ 2 then date.year - 1 else date.year
  let inCycle := (year % 400).toNat
  let dayOfYear := (153 * ((date.month + 9) % 12) + 2) / 5 + date.day - 1
  let dayOfCycle := inCycle * 365 + inCycle / 4 - inCycle / 100 + dayOfYear
  year / 400 * 146097 + dayOfCycle - 719468

/-- The day that is a number of days from the beginning of 1970. -/
def ofDays (days : Int) : CivilDate :=
  let shifted := days + 719468
  let dayOfCycle := (shifted % 146097).toNat
  let inCycle :=
    (dayOfCycle - dayOfCycle / 1460 + dayOfCycle / 36524 - dayOfCycle / 146096) / 365
  let dayOfYear := dayOfCycle - (365 * inCycle + inCycle / 4 - inCycle / 100)
  let fromMarch := (5 * dayOfYear + 2) / 153
  let day := dayOfYear - (153 * fromMarch + 2) / 5 + 1
  let month := if fromMarch < 10 then fromMarch + 3 else fromMarch - 9
  let year := shifted / 146097 * 400 + inCycle
  ⟨if month ≤ 2 then year + 1 else year, month, day⟩

example :
    ofDays 0 = ⟨1970, 1, 1⟩ ∧ ofDays 11016 = ⟨2000, 2, 29⟩ ∧
      ofDays (-719529) = ⟨-1, 12, 31⟩ := by
  decide +kernel

example : toDays ⟨2000, 2, 29⟩ = 11016 ∧ toDays ⟨-1, 12, 31⟩ = -719529 := by decide +kernel

end CivilDate

namespace Timestamp

/-- The seconds of a day. -/
def secondsPerDay : Int := 86400

/-- The date of a point in time. -/
def date (timestamp : Timestamp) : CivilDate :=
  CivilDate.ofDays (timestamp.seconds / secondsPerDay)

/-- A year, with four digits or, outside four digits, with a sign. -/
def yearChars (year : Int) : List Char :=
  if 0 ≤ year ∧ year ≤ 9999 then
    Decimal.padded 4 year.natAbs
  else
    (if year < 0 then '-' else '+') :: Decimal.padded 4 year.natAbs

/-- The decimal places of a second, in groups of three. -/
def fractionChars (nanoseconds : Nat) : List Char :=
  if nanoseconds = 0 then []
  else if nanoseconds % 1000000 = 0 then '.' :: Decimal.padded 3 (nanoseconds / 1000000)
  else if nanoseconds % 1000 = 0 then '.' :: Decimal.padded 6 (nanoseconds / 1000)
  else '.' :: Decimal.padded 9 nanoseconds

/-- The characters of a point in time. -/
def chars (timestamp : Timestamp) : List Char :=
  let date := timestamp.date
  let inDay := (timestamp.seconds % secondsPerDay).toNat
  let (leap, nanoseconds) :=
    if 1000000000 ≤ timestamp.nanoseconds then (1, timestamp.nanoseconds - 1000000000)
    else (0, timestamp.nanoseconds)
  yearChars date.year ++ '-' :: Decimal.padded 2 date.month ++ '-' :: Decimal.padded 2 date.day ++
    'T' :: Decimal.padded 2 (inDay / 3600) ++ ':' :: Decimal.padded 2 (inDay / 60 % 60) ++
    ':' :: Decimal.padded 2 (inDay % 60 + leap) ++ fractionChars nanoseconds ++ ['Z']

/-- The text of a point in time. -/
def text (timestamp : Timestamp) : String :=
  String.ofList timestamp.chars

example : chars ⟨951782399, 1500000000⟩ = "2000-02-28T23:59:60.500Z".toList := by decide +kernel

example : chars ⟨-62198755200, 1⟩ = "-0001-01-01T00:00:00.000000001Z".toList := by decide +kernel

end Timestamp
end LatencyMeter

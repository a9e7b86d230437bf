import Kindred.Number.Binary

/-! Points in time and their written form. -/

namespace Kindred

/-- Seconds since the beginning of 1970, and nanoseconds. A leap second goes past one thousand million. -/
structure Timestamp where
  seconds : Int
  nanos : Nat
deriving DecidableEq, Repr, Inhabited

/-- A day of the calendar. -/
structure Date where
  year : Int
  month : Nat
  day : Nat
deriving DecidableEq, Repr

namespace Date

/-- The day that many days after the first day of March of the year zero. Years here begin in March, so that
the day that not every year has is the last one. -/
def ofDaysSinceMarchZero (days : Int) : Date :=
  let era := days / 146097
  let dayOfEra := (days % 146097).toNat
  let yearOfEra := (dayOfEra - dayOfEra / 1460 + dayOfEra / 36524 - dayOfEra / 146096) / 365
  let dayOfYear := dayOfEra - (365 * yearOfEra + yearOfEra / 4 - yearOfEra / 100)
  let monthFromMarch := (5 * dayOfYear + 2) / 153
  let day := dayOfYear - (153 * monthFromMarch + 2) / 5 + 1
  let year := (yearOfEra : Int) + 400 * era
  if monthFromMarch < 10 then ⟨year, monthFromMarch + 3, day⟩ else ⟨year + 1, monthFromMarch - 9, day⟩

/-- The day that many days after the first day of 1970. -/
def ofEpochDays (days : Int) : Date :=
  ofDaysSinceMarchZero (days + 719468)

end Date

namespace Timestamp

/-- A number with at least that many digits. -/
def padded (width n : Nat) : String :=
  String.ofList (Binary.paddedDigits width n)

/-- A year: four digits, or a sign in front where four digits do not do. -/
def yearText (year : Int) : String :=
  if year < 0 then "-" ++ padded 4 year.natAbs
  else if 9999 < year then "+" ++ padded 4 year.natAbs
  else padded 4 year.natAbs

/-- The part of a second: nothing, or three, six or nine digits, as few as tell all. -/
def fractionText (nanos : Nat) : String :=
  if nanos = 0 then ""
  else if nanos % 1000000 = 0 then "." ++ padded 3 (nanos / 1000000)
  else if nanos % 1000 = 0 then "." ++ padded 6 (nanos / 1000)
  else "." ++ padded 9 nanos

/-- The date and the time, without a zone. -/
def dateTime (time : Timestamp) : String :=
  let date := Date.ofEpochDays (time.seconds / 86400)
  let second := (time.seconds % 86400).toNat
  let leap := time.nanos / 1000000000
  yearText date.year ++ "-" ++ padded 2 date.month ++ "-" ++ padded 2 date.day ++ "T" ++
    padded 2 (second / 3600) ++ ":" ++ padded 2 (second / 60 % 60) ++ ":" ++
    padded 2 (second % 60 + leap) ++ fractionText (time.nanos % 1000000000)

/-- The time with its distance from the zero meridian's. -/
def withOffset (time : Timestamp) : String :=
  time.dateTime ++ "+00:00"

/-- The time with the letter of the zero meridian. -/
def withZone (time : Timestamp) : String :=
  time.dateTime ++ "Z"

end Timestamp

end Kindred

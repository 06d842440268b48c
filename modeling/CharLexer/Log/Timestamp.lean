import CharLexer.Text.Padding

/-!
# Timestamps

A moment of universal time, in seconds since the start of 1970 and nanoseconds. Its date follows
the Gregorian calendar before and after that year alike. It is written as date and time with the
shortest exact fraction, or as the time of day to the millisecond. A leap second is a whole second
of nanoseconds beyond the last second of a minute.
-/
namespace CharLexer.Log

/-- A moment of universal time. -/
structure Timestamp where
  /-- Whole seconds since the start of 1970. -/
  seconds : Int
  /-- Nanoseconds after the whole second. -/
  nanos : Nat
  deriving DecidableEq

/-- A day of the calendar. -/
structure Date where
  year : Int
  month : Nat
  day : Nat
  deriving DecidableEq

/-- A number of at least so many digits, filled up with zeros. -/
def zeroPadded (width number : Nat) : String :=
  let digits := toString number
  String.ofList (List.replicate (width - digits.length) '0') ++ digits

/-- The date so many days after the first of January 1970. Days are counted from the first of
March of the year zero, so that the day a leap year adds comes last in its year. -/
def Date.ofDays (days : Int) : Date :=
  let shifted := days + 719468
  let era := shifted.fdiv 146097
  let dayOfEra := (shifted.fmod 146097).toNat
  let yearOfEra := (dayOfEra - dayOfEra / 1460 + dayOfEra / 36524 - dayOfEra / 146096) / 365
  let dayOfYear := dayOfEra - (365 * yearOfEra + yearOfEra / 4 - yearOfEra / 100)
  let monthFromMarch := (5 * dayOfYear + 2) / 153
  let day := dayOfYear - (153 * monthFromMarch + 2) / 5 + 1
  let month := if monthFromMarch < 10 then monthFromMarch + 3 else monthFromMarch - 9
  let year := era * 400 + yearOfEra
  ⟨if month ≤ 2 then year + 1 else year, month, day⟩

/-- A year of at least four digits, with a sign only when it is no plain four-digit year. -/
def yearText (year : Int) : String :=
  if 0 ≤ year ∧ year ≤ 9999 then zeroPadded 4 year.toNat
  else (if year < 0 then "-" else "+") ++ zeroPadded 4 year.natAbs

namespace Timestamp

/-- The date of a moment. -/
def date (moment : Timestamp) : Date := .ofDays (moment.seconds.fdiv 86400)

/-- The hour, minute and second of a moment. -/
def clock (moment : Timestamp) : String :=
  let second := (moment.seconds.fmod 86400).toNat
  zeroPadded 2 (second / 3600) ++ ":" ++ zeroPadded 2 (second / 60 % 60) ++ ":" ++
    zeroPadded 2 (second % 60 + moment.nanos / 1000000000)

/-- The nanoseconds within the second. -/
def subsecond (moment : Timestamp) : Nat := moment.nanos % 1000000000

/-- The fraction of the second in groups of three digits, as few as are exact. -/
def fraction (moment : Timestamp) : String :=
  let nanos := moment.subsecond
  if nanos = 0 then ""
  else if nanos % 1000000 = 0 then "." ++ zeroPadded 3 (nanos / 1000000)
  else if nanos % 1000 = 0 then "." ++ zeroPadded 6 (nanos / 1000)
  else "." ++ zeroPadded 9 nanos

/-- Date, time and offset, as in `2023-11-14T22:13:20.005+00:00`. -/
def dateTime (moment : Timestamp) : String :=
  let date := moment.date
  yearText date.year ++ "-" ++ zeroPadded 2 date.month ++ "-" ++ zeroPadded 2 date.day ++ "T" ++
    moment.clock ++ moment.fraction ++ "+00:00"

/-- The time of day to the millisecond, as in `22:13:20.005`. -/
def timeOfDay (moment : Timestamp) : String :=
  moment.clock ++ "." ++ zeroPadded 3 (moment.subsecond / 1000000)

end Timestamp

end CharLexer.Log

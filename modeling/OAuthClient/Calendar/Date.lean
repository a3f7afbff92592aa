/-!
# Dates

Dates of the Gregorian calendar, extended to all years, and their numbering by days. Day zero is the
first of January 1970.
-/

namespace OAuthClient.Calendar

/-- A date. -/
structure Date where
  year : Int
  /-- The month, from one. -/
  month : Nat
  /-- The day of the month, from one. -/
  day : Nat
  deriving DecidableEq, Repr

/-- Whether a year has a leap day. -/
def isLeap (year : Int) : Bool := year % 4 == 0 && (year % 100 != 0 || year % 400 == 0)

/-- How many days a month has. -/
def daysIn (year : Int) (month : Nat) : Nat :=
  if month == 2 then (if isLeap year then 29 else 28)
  else if month == 4 || month == 6 || month == 9 || month == 11 then 30 else 31

/-- The number of a date. Years are taken to begin in March, so that the leap day comes last. -/
def Date.toDays (date : Date) : Int :=
  let year := if date.month ≤ 2 then date.year - 1 else date.year
  let era := year / 400
  let yearOfEra := year - era * 400
  let month : Int := (date.month + 9) % 12
  let dayOfYear := (153 * month + 2) / 5 + date.day - 1
  let dayOfEra := yearOfEra * 365 + yearOfEra / 4 - yearOfEra / 100 + dayOfYear
  era * 146097 + dayOfEra - 719468

/-- The date of a number. -/
def Date.ofDays (days : Int) : Date :=
  let days := days + 719468
  let era := days / 146097
  let dayOfEra := days - era * 146097
  let yearOfEra :=
    (dayOfEra - dayOfEra / 1460 + dayOfEra / 36524 - dayOfEra / 146096) / 365
  let dayOfYear := dayOfEra - (365 * yearOfEra + yearOfEra / 4 - yearOfEra / 100)
  let month := (5 * dayOfYear + 2) / 153
  let day := dayOfYear - (153 * month + 2) / 5 + 1
  let calendarMonth := if month < 10 then month + 3 else month - 9
  let year := yearOfEra + era * 400 + (if calendarMonth ≤ 2 then 1 else 0)
  { year, month := calendarMonth.toNat, day := day.toNat }

/-- Whether a date is one of the years 1 to 9999 and exists. -/
def Date.isValid (date : Date) : Bool :=
  1 ≤ date.year && date.year ≤ 9999 && 1 ≤ date.month && date.month ≤ 12 && 1 ≤ date.day &&
    date.day ≤ daysIn date.year date.month

/-- The weekday of a day number; Monday is zero. -/
def weekday (days : Int) : Nat := ((days + 3) % 7).toNat

/-- The Monday of the first week of a year: the week that holds its first Thursday. -/
def firstMonday (year : Int) : Int :=
  let first := Date.toDays { year, month := 1, day := 1 }
  let day := weekday first
  if day ≤ 3 then first - day else first - day + 7

/-- The date of a weekday in a week of a year, both counted from one. A week 53 exists in years that
begin on a Thursday and in leap years that begin on a Wednesday. -/
def Date.ofWeek (year : Int) (week day : Nat) : Option Date :=
  let start := weekday (Date.toDays { year, month := 1, day := 1 })
  let isLong := start == 3 || (start == 2 && isLeap year)
  if 1 ≤ year ∧ year ≤ 9999 ∧ 1 ≤ week ∧ (week ≤ 52 ∨ (week = 53 ∧ isLong)) ∧ 1 ≤ day ∧ day ≤ 7 then
    some (Date.ofDays (firstMonday year + (week - 1) * 7 + (day - 1)))
  else none

end OAuthClient.Calendar

/-!
# The calendar

Dates and times of day as they follow from the seconds since the start of 1970, without leap
seconds. The calendar is counted on into the past.
-/

namespace Slipway

structure Date where
  year : Int
  month : Nat
  day : Nat
  deriving DecidableEq

/-- A date and a time of day. -/
structure Moment where
  date : Date
  hour : Nat
  minute : Nat
  second : Nat
  deriving DecidableEq

namespace Date

/-- The days from the start of 1970 to a date. A month is counted from March on, so that a leap day
comes at the end of its year; four hundred years always have the same number of days. -/
def toDays (d : Date) : Int :=
  let year := if d.month ≤ 2 then d.year - 1 else d.year
  let era := year.fdiv 400
  let yearOfEra := year - era * 400
  let month : Int := (d.month + 9) % 12
  let dayOfYear := (153 * month + 2) / 5 + d.day - 1
  let dayOfEra := yearOfEra * 365 + yearOfEra / 4 - yearOfEra / 100 + dayOfYear
  era * 146097 + dayOfEra - 719468

/-- The date so many days after the start of 1970. -/
def ofDays (days : Int) : Date :=
  let n := days + 719468
  let era := n.fdiv 146097
  let dayOfEra := n - era * 146097
  let yearOfEra := (dayOfEra - dayOfEra / 1460 + dayOfEra / 36524 - dayOfEra / 146096) / 365
  let dayOfYear := dayOfEra - (365 * yearOfEra + yearOfEra / 4 - yearOfEra / 100)
  let month := ((5 * dayOfYear + 2) / 153).toNat
  let day := (dayOfYear - (153 * month + 2) / 5 + 1).toNat
  let calendarMonth := if month < 10 then month + 3 else month - 9
  let year := yearOfEra + era * 400
  { year := if calendarMonth ≤ 2 then year + 1 else year, month := calendarMonth, day }

/-- The day of the week, from 0 for Sunday. -/
def weekday (d : Date) : Nat := ((d.toDays + 4).fmod 7).toNat

/-- The number of the day in its year, from 0 on. -/
def dayOfYear (d : Date) : Nat := (d.toDays - toDays ⟨d.year, 1, 1⟩).toNat

/-- The year and the number of the week, where the first week of a year has its first Thursday and
weeks start on Monday. -/
def week (d : Date) : Int × Nat :=
  let thursday := ofDays (d.toDays - ((d.weekday + 6) % 7 : Nat) + 3)
  (thursday.year, thursday.dayOfYear / 7 + 1)

end Date

namespace Moment

def ofSeconds (seconds : Int) : Moment :=
  let days := seconds.fdiv 86400
  let rest := (seconds - days * 86400).toNat
  { date := .ofDays days, hour := rest / 3600, minute := rest / 60 % 60, second := rest % 60 }

def toSeconds (m : Moment) : Int :=
  m.date.toDays * 86400 + m.hour * 3600 + m.minute * 60 + m.second

end Moment

def monthNames : List String := [
  "January", "February", "March", "April", "May", "June", "July", "August", "September", "October",
  "November", "December"]

def weekdayNames : List String :=
  ["Sunday", "Monday", "Tuesday", "Wednesday", "Thursday", "Friday", "Saturday"]

end Slipway

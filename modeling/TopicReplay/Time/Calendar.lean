/-!
# The calendar

Days are counted from 1970-01-01 in the Gregorian calendar, extended without end
in both directions. The count goes by years that begin in March, so that a leap
day is the last day of its year, and by eras of 400 years, after which the
calendar repeats.
-/

namespace TopicReplay.Time

/-- A year, month and day, not necessarily one that the calendar has. -/
structure Date where
  year : Int
  month : Nat
  day : Nat
  deriving DecidableEq, Repr

namespace Date

/-- Whether a year has a 29th of February. -/
def isLeap (year : Int) : Bool := year % 4 == 0 && (year % 100 != 0 || year % 400 == 0)

/-- How many days a month has, zero for a number that names none. -/
def daysInMonth (year : Int) : Nat → Nat
  | 2 => if isLeap year then 29 else 28
  | 4 | 6 | 9 | 11 => 30
  | 1 | 3 | 5 | 7 | 8 | 10 | 12 => 31
  | _ => 0

/-- Whether the calendar has this date. -/
def isValid (date : Date) : Bool :=
  1 ≤ date.day && date.day ≤ daysInMonth date.year date.month

/-- The days in the months before the `month`-th of a year that begins in March. -/
def daysBeforeMonth (month : Int) : Int := (153 * month + 2) / 5

/-- The days before year `year` of an era. -/
def daysBeforeYear (year : Int) : Int := 365 * year + year / 4 - year / 100

/-- The days of an era. -/
def daysPerEra : Int := 146097

/-- The days from the start of the count's first era to 1970-01-01. -/
def epochShift : Int := 719468

/-- The days from 1970-01-01 to a date, negative before it. -/
def toDays (date : Date) : Int :=
  let year := if date.month ≤ 2 then date.year - 1 else date.year
  let month : Int := (date.month + 9) % 12
  year / 400 * daysPerEra + daysBeforeYear (year % 400) + daysBeforeMonth month + (date.day - 1)
    - epochShift

/-- The date that lies `days` days after 1970-01-01. -/
def ofDays (days : Int) : Date :=
  let shifted := days + epochShift
  let inEra := shifted % daysPerEra
  let year := (inEra - inEra / 1460 + inEra / 36524 - inEra / 146096) / 365
  let inYear := inEra - daysBeforeYear year
  let month := (5 * inYear + 2) / 153
  let day := inYear - daysBeforeMonth month + 1
  let civilMonth := if month < 10 then month + 3 else month - 9
  let civilYear := year + shifted / daysPerEra * 400 + if civilMonth ≤ 2 then 1 else 0
  ⟨civilYear, civilMonth.toNat, day.toNat⟩

end Date

end TopicReplay.Time

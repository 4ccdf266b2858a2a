/-!
# Dates of the proleptic Gregorian calendar

Years run from -262143 to 262142, the year zero included. A date is valid by construction.

* `Date.ofParts?` accepts exactly the dates of the calendar.
* `Date.dayNumber` counts days from 1970-01-01, and `Date.ofDayNumber?` finds the day again.
-/

namespace CampaignFetch.Calendar

def firstYear : Int := -262143

def lastYear : Int := 262142

/-- Every fourth year is a leap year, except the full centuries that 400 does not divide. -/
def isLeapYear (year : Int) : Bool :=
  year % 4 = 0 && (year % 100 ≠ 0 || year % 400 = 0)

/-- The number of days of a month; a number that is no month has none. -/
def daysInMonth (year : Int) (month : Nat) : Nat :=
  match month with
  | 1 | 3 | 5 | 7 | 8 | 10 | 12 => 31
  | 4 | 6 | 9 | 11 => 30
  | 2 => if isLeapYear year then 29 else 28
  | _ => 0

/-- Whether the calendar has the day. -/
def IsDate (year : Int) (month day : Nat) : Prop :=
  firstYear ≤ year ∧ year ≤ lastYear ∧ 1 ≤ day ∧ day ≤ daysInMonth year month

instance (year : Int) (month day : Nat) : Decidable (IsDate year month day) := by
  unfold IsDate
  infer_instance

structure Date where
  year : Int
  month : Nat
  day : Nat
  isDate : IsDate year month day
  deriving DecidableEq

/-- The day with the given parts, if the calendar has it. -/
def Date.ofParts? (year : Int) (month day : Nat) : Option Date :=
  if h : IsDate year month day then some ⟨year, month, day, h⟩ else none

/-- The number of days before a month of a year. -/
def daysBeforeMonth (year : Int) (month : Nat) : Nat :=
  (List.range month).foldl (fun days m => days + daysInMonth year m) 0

/-- The number of days from the first of January of the year zero to that of another year. -/
def daysBeforeYear (year : Int) : Int :=
  365 * year + (year + 3).fdiv 4 - (year + 99).fdiv 100 + (year + 399).fdiv 400

/-- The number of days since 1970-01-01, negative before it. -/
def Date.dayNumber (d : Date) : Int :=
  daysBeforeYear d.year - daysBeforeYear 1970 + daysBeforeMonth d.year d.month + d.day - 1

/-- The year of the day that comes so many days after the first of January of the year zero. -/
def yearOf (day : Int) : Int :=
  -- 400 years have 146097 days; with two days more, the quotient is the year or the next one
  let year := (400 * (day + 2)).fdiv 146097
  if daysBeforeYear year ≤ day then year else year - 1

/-- The month and the day in it that come `left` days after the beginning of a month. At most so
many months are passed over. -/
def dayFrom (year : Int) (month left : Nat) : (months : Nat) → Nat × Nat
  | 0 => (month, left + 1)
  | months + 1 =>
    if left < daysInMonth year month then (month, left + 1)
    else dayFrom year (month + 1) (left - daysInMonth year month) months

/-- The day with a number, if the calendar goes that far. -/
def Date.ofDayNumber? (n : Int) : Option Date :=
  let day := n + daysBeforeYear 1970
  let year := yearOf day
  let (month, dayOfMonth) := dayFrom year 1 (day - daysBeforeYear year).toNat 11
  Date.ofParts? year month dayOfMonth

/-- The number of seconds from the start of 1970 to the end of the calendar. -/
def endOfCalendar : Int :=
  (daysBeforeYear (lastYear + 1) - daysBeforeYear 1970) * 86400

end CampaignFetch.Calendar

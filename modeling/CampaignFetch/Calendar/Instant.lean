import CampaignFetch.Calendar.Date
import CampaignFetch.Text.Integer

/-!
# Instants and spans of time

What a clock shows is an instant: a day of the calendar, the second of the day and the part of the
second that has passed. Clocks show no leap seconds.

* `Span.ofHours?` makes a span of hours, `Instant.add?` moves an instant by a span. Both have an end:
  spans have sixty-four bits of milliseconds, and the calendar has a last day.
* `Instant.timestamp` counts the whole seconds since the beginning of 1970 in a word of sixty-four
  bits, `Instant.ofSeconds?` finds an instant from this number.
-/

namespace CampaignFetch.Calendar

/-- A span of whole seconds. Its milliseconds fit sixty-four bits. -/
structure Span where
  seconds : Int
  isSpan : 1000 * (seconds.natAbs : Int) ≤ Text.int64Max

/-- The span of so many hours, unless it is too long for one. -/
def Span.ofHours? (hours : Int) : Option Span :=
  if h : 1000 * ((3600 * hours).natAbs : Int) ≤ Text.int64Max then some ⟨3600 * hours, h⟩ else none

/-- What a clock shows. -/
structure Instant where
  date : Date
  /-- The second of the day. -/
  second : Nat
  nanosecond : Nat
  isTime : second < 86400 ∧ nanosecond < 1000000000
  deriving DecidableEq

namespace Instant

/-- The instant so many seconds after the beginning of a day, if the calendar goes that far. -/
def ofDaySeconds? (day seconds : Int) (nanosecond : Nat) (h : nanosecond < 1000000000) :
    Option Instant := do
  let date ← Date.ofDayNumber? (day + seconds / 86400)
  return ⟨date, (seconds % 86400).toNat, nanosecond, by omega, h⟩

/-- The instant after a span, if the calendar goes that far. -/
def add? (i : Instant) (s : Span) : Option Instant :=
  ofDaySeconds? i.date.dayNumber (i.second + s.seconds) i.nanosecond i.isTime.2

/-- The instant so many seconds after the beginning of 1970, if the calendar goes that far. -/
def ofSeconds? (seconds : Int) : Option Instant := ofDaySeconds? 0 seconds 0 (by decide)

/-- The number of whole seconds since the beginning of 1970. -/
def timestamp (i : Instant) : Int64 :=
  Int64.ofInt i.date.dayNumber * 86400 + Int64.ofNat i.second

end Instant

end CampaignFetch.Calendar

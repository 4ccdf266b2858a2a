import CampaignFetch.Calendar.Date

/-!
# Timestamps

A day and a time of day with nanoseconds, without a time zone. The second 60 stands for a leap
second.

Two texts of a timestamp are written here:

* `Timestamp.text`, with the fewest of 0, 3, 6 or 9 fraction digits that are exact;
* `Timestamp.microText`, with six fraction digits always, the rest of the nanoseconds cut off.

Both write a year outside 0 to 9999 with its sign.
-/

namespace CampaignFetch.Calendar

/-- Whether the numbers are a time of day. -/
def IsTime (hour minute second nanosecond : Nat) : Prop :=
  hour ≤ 23 ∧ minute ≤ 59 ∧ second ≤ 60 ∧ nanosecond < 1000000000

instance (hour minute second nanosecond : Nat) :
    Decidable (IsTime hour minute second nanosecond) := by
  unfold IsTime
  infer_instance

structure Timestamp where
  date : Date
  hour : Nat
  minute : Nat
  second : Nat
  nanosecond : Nat
  isTime : IsTime hour minute second nanosecond
  deriving DecidableEq

/-- The timestamp with the given parts, if there is such a day and such a time of day. -/
def Timestamp.ofParts? (year : Int) (month day hour minute second nanosecond : Nat) :
    Option Timestamp := do
  let date ← Date.ofParts? year month day
  if h : IsTime hour minute second nanosecond then
    some ⟨date, hour, minute, second, nanosecond, h⟩
  else none

/-- The timestamp without the part below a microsecond. -/
def Timestamp.truncate (t : Timestamp) : Timestamp :=
  { t with
    nanosecond := t.nanosecond / 1000 * 1000
    isTime := by
      obtain ⟨h, m, s, n⟩ := t.isTime
      exact ⟨h, m, s, by omega⟩ }

/-! ## Writing -/

/-- The decimal digits of a number, with zeros in front up to a width. -/
def padded (width n : Nat) : List Char :=
  let ds := Nat.toDigits 10 n
  List.replicate (width - ds.length) '0' ++ ds

/-- The text of a year: four digits, or a sign and at least four digits. -/
def yearText (year : Int) : List Char :=
  if 0 ≤ year ∧ year ≤ 9999 then padded 4 year.natAbs
  else (if year < 0 then '-' else '+') :: padded 4 year.natAbs

/-- The text up to the second. -/
def Timestamp.secondText (t : Timestamp) : List Char :=
  yearText t.date.year ++ '-' :: padded 2 t.date.month ++ '-' :: padded 2 t.date.day ++
    'T' :: padded 2 t.hour ++ ':' :: padded 2 t.minute ++ ':' :: padded 2 t.second

/-- The shortest of the fraction texts with 0, 3, 6 or 9 digits that is exact. -/
def fractionText (nanosecond : Nat) : List Char :=
  if nanosecond = 0 then []
  else if nanosecond % 1000000 = 0 then '.' :: padded 3 (nanosecond / 1000000)
  else if nanosecond % 1000 = 0 then '.' :: padded 6 (nanosecond / 1000)
  else '.' :: padded 9 nanosecond

/-- The exact text. -/
def Timestamp.text (t : Timestamp) : String :=
  String.ofList (t.secondText ++ fractionText t.nanosecond)

/-- The text with six fraction digits. -/
def Timestamp.microText (t : Timestamp) : String :=
  String.ofList (t.secondText ++ '.' :: padded 6 (t.nanosecond / 1000))

end CampaignFetch.Calendar

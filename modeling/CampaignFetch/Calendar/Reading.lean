import CampaignFetch.Calendar.Timestamp
import CampaignFetch.Text.Blank
import CampaignFetch.Text.Integer

/-!
# Reading timestamps

A timestamp is written `year-month-dayThour:minute:second`, with an optional fraction. The year has
one to four digits, or a sign and any number of digits; the other parts have one or two digits.
Blank characters may stand before a number.

A `Layout` fixes what differs between the two places where timestamps are read: whether blank
characters may stand before the separators too, and how many fraction digits there are.
-/

namespace CampaignFetch.Calendar

open Text

/-- Why a text is no timestamp. -/
inductive ReadFault where
  /-- A character that cannot stand where it stands. -/
  | invalid
  | tooShort
  /-- A number, or the day that the numbers name, does not exist. -/
  | outOfRange
  /-- The text goes on after the timestamp. -/
  | tooLong
  deriving DecidableEq, Repr

/-- Says what is wrong, for an error message. -/
def ReadFault.message : ReadFault → String
  | .invalid => "input contains invalid characters"
  | .tooShort => "premature end of input"
  | .outOfRange => "input is out of range"
  | .tooLong => "trailing input"

/-- How a timestamp is written in some place. -/
structure Layout where
  /-- Whether blank characters may stand before a separator and at the end. -/
  loose : Bool
  /-- The number of fraction digits, if it is fixed; otherwise there may be any number, of which
  nine count. -/
  fraction : Option Nat

/-- The layout of the text form of raw column values. -/
def Layout.column : Layout := ⟨false, some 6⟩

/-- The layout of timestamps inside documents. -/
def Layout.document : Layout := ⟨true, none⟩

/-- The digits at the front, at most `most` of them, and what follows. -/
def spanDigits (most : Nat) (cs : List Char) : List Char × List Char :=
  let ds := (cs.take most).takeWhile Char.isDigit
  (ds, cs.drop ds.length)

/-- Reads a number of `least` to `most` digits. -/
def readNumber (least most : Nat) (cs : List Char) : Except ReadFault (Nat × List Char) :=
  if cs.length < least then .error .tooShort
  else
    let (ds, rest) := spanDigits most cs
    if ds.length < least then .error .invalid
    else match digitsFrom 0 ds with
      | some n => if int64Max < n then .error .outOfRange else .ok (n, rest)
      | none => .error .invalid

/-- Reads a number of one or two digits between two bounds. -/
def readPart (low high : Nat) (cs : List Char) : Except ReadFault (Nat × List Char) := do
  let (n, rest) ← readNumber 1 2 (trimStart cs)
  if low ≤ n ∧ n ≤ high then return (n, rest) else throw .outOfRange

/-- Reads the number of a year: one to four digits, or a sign and any number of digits. -/
def readSigned (cs : List Char) : Except ReadFault (Int × List Char) :=
  match trimStart cs with
  | '-' :: cs => (readNumber 1 cs.length.succ cs).map fun (n, rest) => (-(n : Int), rest)
  | '+' :: cs => (readNumber 1 cs.length.succ cs).map fun (n, rest) => ((n : Int), rest)
  | cs => (readNumber 1 4 cs).map fun (n, rest) => ((n : Int), rest)

/-- Reads a year, which fits thirty-two bits with sign. -/
def readYear (cs : List Char) : Except ReadFault (Int × List Char) := do
  let (year, rest) ← readSigned cs
  if -2147483648 ≤ year ∧ year ≤ 2147483647 then return (year, rest) else throw .outOfRange

/-- Skips blank characters where the layout allows them. -/
def Layout.skip (l : Layout) (cs : List Char) : List Char :=
  if l.loose then trimStart cs else cs

def Layout.readSeparator (l : Layout) (separator : Char) (cs : List Char) :
    Except ReadFault (List Char) :=
  match l.skip cs with
  | [] => .error .tooShort
  | c :: rest => if c = separator then .ok rest else .error .invalid

/-- Reads the fraction of a second, if there is one, as nanoseconds. -/
def Layout.readFraction (l : Layout) (cs : List Char) : Except ReadFault (Nat × List Char) :=
  match cs with
  | '.' :: cs => do
    let (least, most) := match l.fraction with
      | some digits => (digits, digits)
      | none => (1, 9)
    let (n, rest) ← readNumber least most cs
    let places := cs.length - rest.length
    let rest := if l.fraction.isSome then rest else rest.dropWhile Char.isDigit
    return (n * Nat.pow 10 (9 - places), rest)
  | cs => .ok (0, cs)

/-- Reads a timestamp that takes up the whole text. -/
def Layout.read (l : Layout) (s : String) : Except ReadFault Timestamp := do
  let (year, cs) ← readYear s.toList
  let (month, cs) ← readPart 1 12 (← l.readSeparator '-' cs)
  let (day, cs) ← readPart 1 31 (← l.readSeparator '-' cs)
  let (hour, cs) ← readPart 0 23 (← l.readSeparator 'T' cs)
  let (minute, cs) ← readPart 0 59 (← l.readSeparator ':' cs)
  let (second, cs) ← readPart 0 60 (← l.readSeparator ':' cs)
  let (nanosecond, cs) ← l.readFraction cs
  if l.skip cs ≠ [] then throw .tooLong
  match Timestamp.ofParts? year month day hour minute second nanosecond with
  | some t => return t
  | none => throw .outOfRange

end CampaignFetch.Calendar

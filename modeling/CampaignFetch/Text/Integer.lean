/-!
# Integers and truth values as text

An integer is written as an optional sign and ASCII digits, nothing else; a value outside the range
asked for is refused. A truth value is exactly `true` or `false`.
-/

namespace CampaignFetch.Text

def digit? (c : Char) : Option Nat :=
  if '0' ≤ c ∧ c ≤ '9' then some (c.toNat - 48) else none

/-- The number that the digits continue, if all are digits. -/
def digitsFrom (value : Nat) : List Char → Option Nat
  | [] => some value
  | c :: cs => do digitsFrom (value * 10 + (← digit? c)) cs

/-- The number written by one or more digits. -/
def digits? : List Char → Option Nat
  | [] => none
  | cs => digitsFrom 0 cs

/-- The integer that the text writes. -/
def int? (s : String) : Option Int :=
  match s.toList with
  | '-' :: cs => (digits? cs).map fun n => -(n : Int)
  | '+' :: cs => (digits? cs).map Int.ofNat
  | cs => (digits? cs).map Int.ofNat

/-- The least and the greatest integer of sixty-four bits with sign. -/
def int64Min : Int := -9223372036854775808

@[inherit_doc int64Min]
def int64Max : Int := 9223372036854775807

def fitsInt64 (n : Int) : Bool := int64Min ≤ n && n ≤ int64Max

/-- The integer that the text writes, if it fits sixty-four bits with sign. -/
def int64? (s : String) : Option Int :=
  (int? s).filter fitsInt64

/-- The natural number that the text writes, if it needs at most `bits` bits. A plus sign is
allowed, a minus sign is not. -/
def nat? (bits : Nat) (s : String) : Option Nat :=
  match s.toList with
  | '+' :: cs => (digits? cs).filter (· < Nat.pow 2 bits)
  | cs => (digits? cs).filter (· < Nat.pow 2 bits)

/-- The truth value that the text writes. -/
def bool? (s : String) : Option Bool :=
  if s = "true" then some true else if s = "false" then some false else none

def ofInt (n : Int) : String :=
  match n with
  | .ofNat m => String.ofList (Nat.toDigits 10 m)
  | .negSucc m => String.ofList ('-' :: Nat.toDigits 10 (m + 1))

end CampaignFetch.Text

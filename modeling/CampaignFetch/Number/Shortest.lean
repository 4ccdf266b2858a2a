import CampaignFetch.Number.Binary64

/-!
# The shortest decimal that reads back

Between two neighbouring binary numbers lie many decimals that round to the same one of them. Of
these `shortest` takes one with the fewest digits, and of several such the nearest.

The search goes through the grids of one, two, … seventeen digits, after the grid of the power of
ten above the number. A grid that meets the interval of the decimals rounding to the number has one
of the two points next to the number itself in it, so only these two are tried.
-/

namespace CampaignFetch.Number

/-- The positive decimal `digits · 10 ^ places`. -/
structure Decimal where
  digits : Nat
  places : Int
  deriving DecidableEq, Repr

/-- The interval of decimals that round to a positive number, over one denominator. -/
structure RoundingInterval where
  low : Nat
  value : Nat
  high : Nat
  denominator : Nat
  /-- Whether the ends belong to the interval. -/
  closed : Bool

/-- The interval of a positive number. The gap below a power of two is half as wide. -/
def Binary64.interval (x : Binary64) : RoundingInterval :=
  let m := x.significand
  let below := if m = Nat.pow 2 52 ∧ x.exponent > leastExponent then 1 else 2
  let e := x.exponent - 2
  let factor := if e < 0 then 1 else Nat.pow 2 e.natAbs
  { low := (4 * m - below) * factor
    value := 4 * m * factor
    high := (4 * m + 2) * factor
    denominator := if e < 0 then Nat.pow 2 e.natAbs else 1
    closed := m % 2 = 0 }

/-- The integer `p` with `10 ^ p ≤ num / den < 10 ^ (p + 1)`. -/
def decimalExponent (num den : Nat) : Int :=
  let guess : Int := ((num.log2 : Int) - den.log2) * 30103 / 100000
  let reaches (p : Int) : Bool :=
    if p < 0 then den ≤ num * Nat.pow 10 p.natAbs else den * Nat.pow 10 p.natAbs ≤ num
  if !reaches guess then guess - 1
  else if reaches (guess + 1) then guess + 1
  else guess

/-- Whether `digits · 10 ^ places` lies in the interval. -/
def RoundingInterval.contains (r : RoundingInterval) (d : Decimal) : Bool :=
  let left := if d.places < 0 then d.digits * r.denominator
    else d.digits * Nat.pow 10 d.places.natAbs * r.denominator
  let up (n : Nat) := if d.places < 0 then n * Nat.pow 10 d.places.natAbs else n
  if r.closed then up r.low ≤ left && left ≤ up r.high
  else up r.low < left && left < up r.high

/-- The point of the grid `10 ^ places` that lies in the interval and is nearest to the value. -/
def RoundingInterval.onGrid? (r : RoundingInterval) (places : Int) : Option Decimal :=
  let (num, den) :=
    if places < 0 then (r.value * Nat.pow 10 places.natAbs, r.denominator)
    else (r.value, r.denominator * Nat.pow 10 places.natAbs)
  let below : Decimal := ⟨num / den, places⟩
  let above : Decimal := ⟨num / den + 1, places⟩
  match r.contains below, r.contains above with
  | true, false => some below
  | false, true => some above
  | false, false => none
  | true, true =>
    let twice := 2 * (num % den)
    if twice < den then some below
    else if twice > den then some above
    else if below.digits % 2 = 0 then some below else some above

/-- The first hit on the grids with ever smaller steps, beginning at `10 ^ places`. -/
def RoundingInterval.search (r : RoundingInterval) : (grids : Nat) → (places : Int) → Decimal
  | 0, places => (r.onGrid? places).getD ⟨0, 0⟩
  | grids + 1, places =>
    match r.onGrid? places with
    | some d => d
    | none => r.search grids (places - 1)

/-- The decimal with the fewest digits that rounds to the absolute value of `x`. -/
def Binary64.shortest (x : Binary64) : Decimal :=
  if x.significand = 0 then ⟨0, 0⟩
  else
    let r := x.interval
    r.search 17 (decimalExponent r.value r.denominator + 1)

/-! ## Text -/

/-- The digits between `lead` and `tail` zeros. -/
def zeros (n : Nat) : List Char := List.replicate n '0'

/-- The text of a number. Between 10⁻⁵ and 10¹⁶ the digits stand around a point and at least one
digit follows it; elsewhere the first digit stands before the point and an exponent with its sign
follows. -/
def Binary64.text (x : Binary64) : String :=
  let d := x.shortest
  let ds := Nat.toDigits 10 d.digits
  let exponent : Int := ds.length + d.places - 1
  let body : List Char :=
    if d.digits = 0 then ['0', '.', '0']
    else if -5 ≤ exponent ∧ exponent < 16 then
      if exponent < 0 then ['0', '.'] ++ zeros (exponent.natAbs - 1) ++ ds
      else if d.places < 0 then
        let whole := exponent.natAbs + 1
        ds.take whole ++ '.' :: ds.drop whole
      else ds ++ zeros d.places.natAbs ++ ['.', '0']
    else
      let mantissa := match ds with
        | first :: second :: rest => first :: '.' :: second :: rest
        | ds => ds
      let sign := if exponent < 0 then '-' else '+'
      mantissa ++ 'e' :: sign :: Nat.toDigits 10 exponent.natAbs
  String.ofList (if x.negative then '-' :: body else body)

end CampaignFetch.Number

/-!
# Binary floating point

Finite numbers of the sixty-four bit binary format as exact values `± significand · 2 ^ exponent`.

* `ofRatio?` rounds a quotient of natural numbers to the nearest such number, ties to the even
  significand; `none` means that the quotient is beyond the greatest finite number.
* `mul?` and `div?` are the exact product and quotient, rounded once.
-/

namespace CampaignFetch.Number

/-- A finite number `± significand · 2 ^ exponent`. The significand has at most fifty-three bits and
has exactly fifty-three unless the exponent is the least one, so equal numbers other than the two
zeros are equal structures. -/
structure Binary64 where
  negative : Bool
  significand : Nat
  exponent : Int
  deriving DecidableEq, Repr

namespace Binary64

/-- The exponent of the numbers closest to zero. -/
def leastExponent : Int := -1074

/-- The exponent of the greatest numbers. -/
def greatestExponent : Int := 971

def zero : Binary64 := ⟨false, 0, leastExponent⟩

/-- The numerator and the denominator of `num / den / 2 ^ e`. -/
def scale (num den : Nat) (e : Int) : Nat × Nat :=
  if e < 0 then (num * Nat.pow 2 e.natAbs, den) else (num, den * Nat.pow 2 e.natAbs)

/-- The quotient rounded to a natural number, ties to even. -/
def roundDiv (num den : Nat) : Nat :=
  let q := num / den
  let twice := 2 * (num % den)
  if twice < den then q
  else if twice > den then q + 1
  else if q % 2 = 0 then q else q + 1

/-- The exponent at which a positive quotient has a significand of fifty-three bits, or the least
exponent when that is greater. -/
def exponentFor (num den : Nat) : Int :=
  let guess : Int := (num.log2 : Int) - den.log2 - 52
  let (n, d) := scale num den guess
  let e := if n / d < Nat.pow 2 52 then guess - 1
    else if Nat.pow 2 53 ≤ n / d then guess + 1
    else guess
  max e leastExponent

/-- The number nearest to `± num / den`. -/
def ofRatio? (negative : Bool) (num den : Nat) : Option Binary64 :=
  if num = 0 then some { zero with negative }
  else
    let e := exponentFor num den
    let (n, d) := scale num den e
    let m := roundDiv n d
    let (m, e) := if m = Nat.pow 2 53 then (Nat.pow 2 52, e + 1) else (m, e)
    if e > greatestExponent then none else some ⟨negative, m, e⟩

def ofNat? (n : Nat) : Option Binary64 := ofRatio? false n 1

/-- The numerator and the denominator of the absolute value. -/
def ratio (x : Binary64) : Nat × Nat :=
  if x.exponent < 0 then (x.significand, Nat.pow 2 x.exponent.natAbs)
  else (x.significand * Nat.pow 2 x.exponent.natAbs, 1)

/-- The rounded product. -/
def mul? (x y : Binary64) : Option Binary64 :=
  ofRatio? (x.negative != y.negative) (x.ratio.1 * y.ratio.1) (x.ratio.2 * y.ratio.2)

/-- The rounded quotient by a number other than zero. -/
def div? (x y : Binary64) : Option Binary64 :=
  ofRatio? (x.negative != y.negative) (x.ratio.1 * y.ratio.2) (x.ratio.2 * y.ratio.1)

def pow10? (n : Nat) : Option Binary64 := ofNat? (Nat.pow 10 n)

/-- The greatest power of ten that is a finite number is `10 ^ 308`. -/
def greatestPow10 : Nat := 308

/-- Divides by `10 ^ places`, in steps of the greatest power of ten, each rounded. -/
def divPow10 : (steps : Nat) → (places : Nat) → Binary64 → Binary64
  | 0, _, x => x
  | steps + 1, places, x =>
    if x.significand = 0 then x
    else
      let step := min places greatestPow10
      match (pow10? step).bind x.div? with
      | some y => if places ≤ greatestPow10 then y else divPow10 steps (places - step) y
      | none => x

/-- The number read from the decimal `± significand · 10 ^ places`: the significand is rounded
first, then scaled by one multiplication, or by a division for every 308 places. `none` means that
the number is beyond the greatest finite one. -/
def ofDecimal? (negative : Bool) (significand : Nat) (places : Int) : Option Binary64 := do
  let x ← ofNat? significand
  let y ←
    if places < 0 then some (divPow10 (places.natAbs / greatestPow10 + 1) places.natAbs x)
    else if places.natAbs ≤ greatestPow10 then (pow10? places.natAbs).bind x.mul?
    else if x.significand = 0 then some x
    else none
  return { y with negative }

end Binary64

end CampaignFetch.Number

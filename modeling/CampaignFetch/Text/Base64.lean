import CampaignFetch.Text.Utf8

/-!
# Base64 for URLs

Bytes written with the letters, digits, `-` and `_`, four symbols for three bytes and no padding.
Reading refuses what writing does not produce: foreign symbols, padding, a length that leaves one
symbol over, and a last symbol with bits that belong to no byte.

When a text has several faults the first in reading order is reported, except that a foreign symbol
that stands alone after the last full quad comes before everything else.
-/

namespace CampaignFetch.Text.Base64

/-- Why a text is no Base64. -/
inductive Fault where
  /-- A byte that is no symbol, or padding where no padding can stand. -/
  | symbol (byte : UInt8) (offset : Nat)
  | length (count : Nat)
  /-- The last symbol has bits that belong to no byte. -/
  | lastSymbol (byte : UInt8) (offset : Nat)
  /-- The text ends in padding. -/
  | padding
  deriving DecidableEq, Repr

/-- Says what is wrong, for an error message. -/
def Fault.message : Fault → String
  | .symbol byte offset => s!"Invalid symbol {byte.toNat}, offset {offset}."
  | .length count => s!"Invalid input length: {count}"
  | .lastSymbol byte offset => s!"Invalid last symbol {byte.toNat}, offset {offset}."
  | .padding => "Invalid padding"

/-! ## Symbols -/

/-- The symbol for a number below 64. -/
def symbol (n : Nat) : UInt8 :=
  if n < 26 then (65 + n).toUInt8
  else if n < 52 then (97 + (n - 26)).toUInt8
  else if n < 62 then (48 + (n - 52)).toUInt8
  else if n = 62 then 45
  else 95

/-- The number that a symbol stands for. -/
def value? (b : UInt8) : Option Nat :=
  let n := b.toNat
  if 65 ≤ n ∧ n ≤ 90 then some (n - 65)
  else if 97 ≤ n ∧ n ≤ 122 then some (n - 97 + 26)
  else if 48 ≤ n ∧ n ≤ 57 then some (n - 48 + 52)
  else if n = 45 then some 62
  else if n = 95 then some 63
  else none

def pad : UInt8 := 61

/-! ## Writing -/

/-- The symbols of a byte string. -/
def encode : Bytes → Bytes
  | a :: b :: c :: rest =>
    let n := a.toNat * 0x10000 + b.toNat * 0x100 + c.toNat
    symbol (n / 0x40000) :: symbol (n / 0x1000 % 0x40) :: symbol (n / 0x40 % 0x40) ::
      symbol (n % 0x40) :: encode rest
  | [a, b] =>
    let n := a.toNat * 0x100 + b.toNat
    [symbol (n / 0x400), symbol (n / 0x10 % 0x40), symbol (n % 0x10 * 4)]
  | [a] => [symbol (a.toNat / 4), symbol (a.toNat % 4 * 16)]
  | [] => []

/-! ## Reading -/

/-- The number of the symbol `b` at `offset`. -/
def valueAt (offset : Nat) (b : UInt8) : Except Fault Nat :=
  match value? b with
  | some n => .ok n
  | none => .error (.symbol b offset)

/-- The numbers of the at most four symbols of the last quad. Padding may follow two or three
symbols, and only padding may follow it; then the quad is readable but refused as padded. -/
def lastValues (start : Nat) : (index : Nat) → (firstPad : Option Nat) → Bytes →
    Except Fault (List Nat × Bool)
  | _, firstPad, [] => .ok ([], firstPad.isSome)
  | index, firstPad, b :: rest =>
    if b = pad then
      if index < 2 then .error (.symbol b (start + index))
      else lastValues start (index + 1) (firstPad <|> some index) rest
    else match firstPad with
      | some at_ => .error (.symbol pad (start + at_))
      | none => do
        let n ← valueAt (start + index) b
        let (ns, padded) ← lastValues start (index + 1) none rest
        return (n :: ns, padded)

/-- The bytes of the last quad, which begins at `start`. -/
def decodeLast (start : Nat) (symbols : Bytes) : Except Fault Bytes := do
  let (ns, padded) ← lastValues start 0 none symbols
  match ns with
  | [] => if symbols.isEmpty then .ok [] else .error (.length start)
  | [_] => .error (.length (start + 1))
  | [a, b] =>
    if padded then .error .padding
    else if b % 16 ≠ 0 then .error (.lastSymbol (symbols.getD 1 0) (start + 1))
    else .ok [(a * 4 + b / 16).toUInt8]
  | [a, b, c] =>
    if padded then .error .padding
    else if c % 4 ≠ 0 then .error (.lastSymbol (symbols.getD 2 0) (start + 2))
    else .ok [(a * 4 + b / 16).toUInt8, (b % 16 * 16 + c / 4).toUInt8]
  | a :: b :: c :: d :: _ =>
    .ok [(a * 4 + b / 16).toUInt8, (b % 16 * 16 + c / 4).toUInt8, (c % 4 * 64 + d).toUInt8]

/-- The bytes of the symbols that begin at `start`. -/
def decodeFrom (start : Nat) : Bytes → Except Fault Bytes
  | s₀ :: s₁ :: s₂ :: s₃ :: s₄ :: rest => do
    let a ← valueAt start s₀
    let b ← valueAt (start + 1) s₁
    let c ← valueAt (start + 2) s₂
    let d ← valueAt (start + 3) s₃
    let bs ← decodeFrom (start + 4) (s₄ :: rest)
    return (a * 4 + b / 16).toUInt8 :: (b % 16 * 16 + c / 4).toUInt8 ::
      (c % 4 * 64 + d).toUInt8 :: bs
  | symbols => decodeLast start symbols

/-- A foreign symbol that stands alone after the last full quad. -/
def strayLast? (symbols : Bytes) : Option Fault :=
  if symbols.length % 4 = 1 then
    match symbols.getLast? with
    | some b =>
      if b ≠ pad ∧ (value? b).isNone then some (.symbol b (symbols.length - 1)) else none
    | none => none
  else none

/-- The bytes that the symbols write. -/
def decode (symbols : Bytes) : Except Fault Bytes :=
  match strayLast? symbols with
  | some fault => .error fault
  | none => decodeFrom 0 symbols

end CampaignFetch.Text.Base64

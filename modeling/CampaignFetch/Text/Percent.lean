import CampaignFetch.Text.Split
import CampaignFetch.Text.Utf8

/-!
# Percent escapes

Bytes escaped as `%` and two hexadecimal digits, and the variant of form data, where `+` is a
space. A percent sign that no two hexadecimal digits follow stands for itself.
-/

namespace CampaignFetch.Text

/-- The value of a hexadecimal digit of either case. -/
def hexValue? (b : UInt8) : Option Nat :=
  let n := b.toNat
  if 48 ≤ n ∧ n ≤ 57 then some (n - 48)
  else if 65 ≤ n ∧ n ≤ 70 then some (n - 55)
  else if 97 ≤ n ∧ n ≤ 102 then some (n - 87)
  else none

def hexByte? (high low : UInt8) : Option UInt8 := do
  return ((← hexValue? high) * 16 + (← hexValue? low)).toUInt8

/-- The bytes with every escape replaced by its byte. -/
def percentDecode : Bytes → Bytes
  | 0x25 :: high :: low :: rest =>
    match hexByte? high low with
    | some b => b :: percentDecode rest
    | none => 0x25 :: percentDecode (high :: low :: rest)
  | b :: rest => b :: percentDecode rest
  | [] => []

/-- A key or a value of form data as a text. -/
def formDecode (bs : Bytes) : String :=
  decodeLossy (percentDecode (bs.map fun b => if b = 0x2B then 0x20 else b))

/-- The pairs of a form-encoded query, in order. Empty pieces between `&` are no pairs, and a piece
without `=` has an empty value. -/
def formPairs (query : Bytes) : List (String × String) :=
  ((pieces 0x26 query).filter (· ≠ [])).map fun piece =>
    (formDecode (piece.takeWhile (· ≠ 0x3D)), formDecode ((piece.dropWhile (· ≠ 0x3D)).drop 1))

end CampaignFetch.Text

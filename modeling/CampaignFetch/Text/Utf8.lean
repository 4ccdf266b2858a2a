/-!
# UTF-8

Text as bytes and back.

* `encode` writes a text.
* `decode` reads bytes as a text, or says where they stop being UTF-8.
* `decodeLossy` reads any bytes: each longest malformed part becomes U+FFFD.
-/

namespace CampaignFetch

abbrev Bytes := List UInt8

namespace Text

/-! ## Writing -/

/-- The one to four bytes of a character. -/
def encodeChar (c : Char) : Bytes :=
  let n := c.toNat
  if n < 0x80 then [n.toUInt8]
  else if n < 0x800 then [(0xC0 + n / 0x40).toUInt8, (0x80 + n % 0x40).toUInt8]
  else if n < 0x10000 then
    [(0xE0 + n / 0x1000).toUInt8, (0x80 + n / 0x40 % 0x40).toUInt8, (0x80 + n % 0x40).toUInt8]
  else
    [(0xF0 + n / 0x40000).toUInt8, (0x80 + n / 0x1000 % 0x40).toUInt8,
      (0x80 + n / 0x40 % 0x40).toUInt8, (0x80 + n % 0x40).toUInt8]

def encodeChars (cs : List Char) : Bytes := cs.flatMap encodeChar

def encode (s : String) : Bytes := encodeChars s.toList

/-! ## Reading -/

/-- How a sequence of two or more bytes goes on after its first byte. -/
structure LeadShape where
  width : Nat
  low : UInt8
  high : UInt8

/-- The shape announced by a first byte. Overlong forms, surrogates and code points beyond
U+10FFFF are ruled out by the first two bytes. -/
def leadShape (b : UInt8) : Option LeadShape :=
  if b < 0xC2 then none
  else if b < 0xE0 then some ⟨2, 0x80, 0xBF⟩
  else if b = 0xE0 then some ⟨3, 0xA0, 0xBF⟩
  else if b = 0xED then some ⟨3, 0x80, 0x9F⟩
  else if b < 0xF0 then some ⟨3, 0x80, 0xBF⟩
  else if b = 0xF0 then some ⟨4, 0x90, 0xBF⟩
  else if b < 0xF4 then some ⟨4, 0x80, 0xBF⟩
  else if b = 0xF4 then some ⟨4, 0x80, 0x8F⟩
  else none

/-- Whether the byte continues a sequence. -/
def isContinuation (b : UInt8) : Bool := 0x80 ≤ b && b ≤ 0xBF

/-- The six bits that a continuation byte carries. -/
def payload (b : UInt8) : Nat := b.toNat % 0x40

/-- The extent of a malformed part: a number of bytes, or everything to the end of the input when
that breaks off inside a character. -/
inductive Malformed where
  | bytes (width : Nat)
  | truncated
  deriving DecidableEq, Repr

/-- Reads the character at the front, unless there is nothing or it is malformed. -/
def decodeChar : Bytes → Except Malformed (Char × Bytes)
  | [] => .error .truncated
  | b₀ :: r₀ =>
    if b₀ < 0x80 then .ok (Char.ofNat b₀.toNat, r₀)
    else match leadShape b₀ with
      | none => .error (.bytes 1)
      | some shape => match r₀ with
        | [] => .error .truncated
        | b₁ :: r₁ =>
          if b₁ < shape.low || shape.high < b₁ then .error (.bytes 1)
          else if shape.width = 2 then
            .ok (Char.ofNat (b₀.toNat % 0x20 * 0x40 + payload b₁), r₁)
          else match r₁ with
            | [] => .error .truncated
            | b₂ :: r₂ =>
              if !isContinuation b₂ then .error (.bytes 2)
              else if shape.width = 3 then
                .ok (Char.ofNat (b₀.toNat % 0x10 * 0x1000 + payload b₁ * 0x40 + payload b₂), r₂)
              else match r₂ with
                | [] => .error .truncated
                | b₃ :: r₃ =>
                  if !isContinuation b₃ then .error (.bytes 3)
                  else .ok (Char.ofNat (b₀.toNat % 0x08 * 0x40000 + payload b₁ * 0x1000 +
                    payload b₂ * 0x40 + payload b₃), r₃)

/-- A character takes at least one byte. -/
theorem length_of_decodeChar {bs : Bytes} {c : Char} {rest : Bytes}
    (h : decodeChar bs = .ok (c, rest)) : rest.length < bs.length := by
  unfold decodeChar at h
  repeat' split at h
  all_goals first
    | (cases h; done)
    | (cases h; simp only [List.length_cons]; omega)

/-- Where a byte string stops being UTF-8. -/
structure Utf8Fault where
  /-- The number of bytes from the malformed part on. -/
  remaining : Nat
  deriving DecidableEq, Repr

/-- Reads the characters of the bytes. -/
def decodeChars (bs : Bytes) : Except Utf8Fault (List Char) :=
  if bs.isEmpty then .ok []
  else match _h : decodeChar bs with
    | .error _ => .error ⟨bs.length⟩
    | .ok (c, rest) => do
      let cs ← decodeChars rest
      return c :: cs
termination_by bs.length
decreasing_by exact length_of_decodeChar _h

/-- Reads the bytes as a text. -/
def decode (bs : Bytes) : Except Utf8Fault String :=
  (decodeChars bs).map String.ofList

/-- Reads the characters of any bytes, with U+FFFD for each longest malformed part. -/
def decodeLossyChars (bs : Bytes) : List Char :=
  if _hne : bs = [] then []
  else match _h : decodeChar bs with
    | .ok (c, rest) => c :: decodeLossyChars rest
    | .error .truncated => ['\uFFFD']
    | .error (.bytes width) => '\uFFFD' :: decodeLossyChars (bs.drop (max width 1))
termination_by bs.length
decreasing_by
  · exact length_of_decodeChar _h
  · have : 0 < bs.length := List.length_pos_iff.mpr _hne
    simp only [List.length_drop]
    omega

/-- Reads any bytes as a text, with U+FFFD for each longest malformed part. -/
def decodeLossy (bs : Bytes) : String := String.ofList (decodeLossyChars bs)

end Text

end CampaignFetch

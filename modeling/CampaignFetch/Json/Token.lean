import CampaignFetch.Json.Fault
import CampaignFetch.Text.Percent

/-!
# The tokens of a document

Readers for the parts of a document that hold no other parts: blanks, the three literals, strings
and numbers. Each takes its token from the front and leaves the rest.

A number without point and exponent is an integer as long as sixty-four bits hold it, with or
without sign. Every other number is floating point: its digits are collected up to sixty-four bits,
further ones only count as places, and the result is scaled by a power of ten.
-/

namespace CampaignFetch.Json

/-! ## Blanks and literals -/

/-- Whether the byte may stand between tokens. -/
def isBlankByte (b : UInt8) : Bool :=
  b = Ascii.space || b = Ascii.newline || b = Ascii.tab || b = Ascii.carriageReturn

/-- The document without the blanks at the front. -/
def skipBlank (bs : Bytes) : Bytes := bs.dropWhile isBlankByte

/-- Reads the given bytes. -/
def readIdent : (expected : Bytes) → Bytes → Except Fault Bytes
  | [], bs => .ok bs
  | _ :: _, [] => .error (.here .eofValue [])
  | e :: es, b :: bs => if b = e then readIdent es bs else .error (.here .expectedIdent bs)

/-- What follows the first letter of `null`. -/
def ullBytes : Bytes := [Ascii.letterU, 0x6C, 0x6C]

/-- What follows the first letter of `true`. -/
def rueBytes : Bytes := [Ascii.letterR, Ascii.letterU, 0x65]

/-- What follows the first letter of `false`. -/
def alseBytes : Bytes := [0x61, 0x6C, 0x73, 0x65]

/-! ## Strings -/

/-- The number written by four hexadecimal digits. -/
def hexUnit? (a b c d : UInt8) : Option Nat := do
  return (← Text.hexValue? a) * 0x1000 + (← Text.hexValue? b) * 0x100 +
    (← Text.hexValue? c) * 0x10 + (← Text.hexValue? d)

/-- Reads a unit of four hexadecimal digits. -/
def readHexUnit : Reader Nat
  | a :: b :: c :: d :: rest =>
    match hexUnit? a b c d with
    | some n => .ok (n, rest)
    | none => .error (.here .invalidEscape rest)
  | _ => .error (.here .eofString [])

/-- The byte that a letter after a backslash stands for. -/
def simpleEscape? (b : UInt8) : Option UInt8 :=
  if b = Ascii.quote ∨ b = Ascii.backslash ∨ b = Ascii.slash then some b
  else if b = Ascii.letterB then some 0x08
  else if b = Ascii.letterF then some 0x0C
  else if b = Ascii.letterN then some Ascii.newline
  else if b = Ascii.letterR then some Ascii.carriageReturn
  else if b = Ascii.letterT then some Ascii.tab
  else none

/-- Reads a byte of an escape that has to be the given one. -/
def readEscapeByte (expected : UInt8) : Bytes → Except Fault Bytes
  | [] => .error (.here .eofString [])
  | b :: rest => if b = expected then .ok rest else .error (.here .endOfHexEscape rest)

/-- Reads a character by number, after `\u`. A pair of surrogates is one character, a surrogate
alone is refused. -/
def readCodePoint (bs : Bytes) : Except Fault (Char × Bytes) := do
  let (lead, rest) ← readHexUnit bs
  if 0xDC00 ≤ lead ∧ lead ≤ 0xDFFF then throw (.here .loneSurrogate rest)
  if lead < 0xD800 ∨ 0xDBFF < lead then return (Char.ofNat lead, rest)
  let rest ← readEscapeByte Ascii.backslash rest
  let rest ← readEscapeByte Ascii.letterU rest
  let (trail, rest) ← readHexUnit rest
  if trail < 0xDC00 ∨ 0xDFFF < trail then throw (.here .loneSurrogate rest)
  return (Char.ofNat (0x10000 + (lead - 0xD800) * 0x400 + (trail - 0xDC00)), rest)

/-- Reads an escape, after the backslash, as the bytes it stands for. -/
def readEscape : Reader Bytes
  | [] => .error (.here .eofString [])
  | b :: rest =>
    if b = Ascii.letterU then do
      let (c, rest) ← readCodePoint rest
      return (Text.encodeChar c, rest)
    else match simpleEscape? b with
      | some b => .ok ([b], rest)
      | none => .error (.here .invalidEscape rest)

/-- Reads the bytes of a string up to its closing quote, in at most as many steps as `bound` has
bytes. -/
def readStringBytes : (bound : Bytes) → Reader Bytes
  | [], bs => .error (.here .eofString bs)
  | _ :: _, [] => .error (.here .eofString [])
  | _ :: bound, b :: rest =>
    if b = Ascii.quote then .ok ([], rest)
    else if b = Ascii.backslash then do
      let (front, rest) ← readEscape rest
      let (back, rest) ← readStringBytes bound rest
      return (front ++ back, rest)
    else if b < Ascii.space then .error (.here .controlCharacter rest)
    else do
      let (back, rest) ← readStringBytes bound rest
      return (b :: back, rest)

/-- Reads a string, after its opening quote. Content that is not UTF-8 is found at its end; the
place of the fault is as far back as the malformed part is from the end of the content. -/
def readString (bs : Bytes) : Except Fault (String × Bytes) := do
  let (content, rest) ← readStringBytes bs bs
  match Text.decode content with
  | .ok s => return (s, rest)
  | .error fault => throw ((Fault.here .invalidCodePoint rest).lookingBack fault.remaining)

/-! ## Numbers -/

/-- The digits at the front, and the rest. -/
def spanDigits (bs : Bytes) : List Nat × Bytes :=
  ((bs.takeWhile Ascii.isDigit).map Ascii.digitValue, bs.dropWhile Ascii.isDigit)

/-- Appends digits to a number as long as sixty-four bits hold it, and counts those appended. -/
def appendDigits (n : Nat) : List Nat → Nat × Nat
  | [] => (n, 0)
  | d :: ds =>
    if n * 10 + d < Nat.pow 2 64 then
      let (m, count) := appendDigits (n * 10 + d) ds
      (m, count + 1)
    else (n, 0)

/-- The floating point number of a significand and a number of places, read before `rest`. -/
def floatNumber (negative : Bool) (significand : Nat) (places : Int) (rest : Bytes) :
    Except Fault (Number × Bytes) :=
  match Number.Binary64.ofDecimal? negative significand places with
  | some x => .ok (.float x, rest)
  | none => .error (.here .numberOutOfRange rest)

/-- The greatest exponent that is told from larger ones. -/
def greatestExponent : Nat := 2147483647

/-- The exponent written by the digits, or the number of digits after which it is too large. -/
def exponentValue (n : Nat) (read : Nat) : List Nat → Nat ⊕ Nat
  | [] => .inl n
  | d :: ds =>
    if n * 10 + d ≤ greatestExponent then exponentValue (n * 10 + d) (read + 1) ds
    else .inr (read + 1)

/-- An exponent moved into the range of thirty-two bits with sign. -/
def clampExponent (n : Int) : Int := max (-2147483648) (min n greatestExponent)

/-- Reads the exponent of a number, after its letter. -/
def readExponent (negative : Bool) (significand : Nat) (places : Int) (bs : Bytes) :
    Except Fault (Number × Bytes) :=
  let (down, bs) := match bs with
    | Ascii.plus :: rest => (false, rest)
    | Ascii.minus :: rest => (true, rest)
    | _ => (false, bs)
  match bs with
  | [] => .error (.here .eofValue [])
  | b :: rest =>
    if !Ascii.isDigit b then .error (.here .invalidNumber rest)
    else
      let (ds, after) := spanDigits bs
      match exponentValue 0 0 ds with
      | .inl e =>
        let e : Int := if down then -(e : Int) else e
        floatNumber negative significand (clampExponent (places + e)) after
      | .inr read =>
        if significand ≠ 0 ∧ !down then .error (.here .numberOutOfRange (bs.drop read))
        else .ok (.float { Number.Binary64.zero with negative }, after)

/-- Whether the byte announces an exponent. -/
def isExponentMark (b : UInt8) : Bool := b = 0x65 || b = 0x45

/-- Reads what may follow the digits of a fraction. -/
def readAfterFraction (negative : Bool) (significand : Nat) (places : Int) (bs : Bytes) :
    Except Fault (Number × Bytes) :=
  match bs with
  | b :: rest =>
    if isExponentMark b then readExponent negative significand places rest
    else floatNumber negative significand places bs
  | [] => floatNumber negative significand places []

/-- Reads the fraction of a number, after the point. -/
def readFraction (negative : Bool) (significand : Nat) (places : Int) (bs : Bytes) :
    Except Fault (Number × Bytes) :=
  let (ds, after) := spanDigits bs
  if ds.isEmpty then
    .error (.next (if bs.isEmpty then .eofValue else .invalidNumber) bs)
  else
    let (significand, count) := appendDigits significand ds
    readAfterFraction negative significand (places - count) after

/-- The integer with a sign, or the floating point number that takes its place when sixty-four bits
do not hold it and when it is negative zero. -/
def wholeNumber (negative : Bool) (n : Nat) (rest : Bytes) : Except Fault (Number × Bytes) :=
  if !negative then .ok (.int n, rest)
  else if n = 0 ∨ n > Nat.pow 2 63 then floatNumber true n 0 rest
  else .ok (.int (-(n : Int)), rest)

/-- Reads a number, after its sign. -/
def readNumber (negative : Bool) : Reader Number
  | [] => .error (.here .eofValue [])
  | b :: rest =>
    if !Ascii.isDigit b then .error (.here .invalidNumber rest)
    else if b = Ascii.zero ∧ (rest.head?.any Ascii.isDigit) then .error (.next .invalidNumber rest)
    else
      let (ds, after) := spanDigits (b :: rest)
      let (n, count) := appendDigits 0 ds
      let extra := ds.length - count
      match after with
      | Ascii.dot :: after => readFraction negative n extra after
      | mark :: more =>
        if isExponentMark mark then readExponent negative n extra more
        else if extra > 0 then floatNumber negative n extra after
        else wholeNumber negative n after
      | [] => if extra > 0 then floatNumber negative n extra after else wholeNumber negative n after

end CampaignFetch.Json

import CampaignFetch.Json.Token

/-!
# Skipping values

A value that nobody asks for is checked for its syntax and dropped. It may nest without limit, its
numbers may be of any size and its strings may hold unpaired surrogates.
-/

namespace CampaignFetch.Json

/-- Skips a string, after its opening quote, in at most as many steps as `bound` has bytes. -/
def skipStringBytes : (bound : Bytes) → Bytes → Except Fault Bytes
  | [], bs => .error (.here .eofString bs)
  | _ :: _, [] => .error (.here .eofString [])
  | _ :: bound, b :: rest =>
    if b = Ascii.quote then .ok rest
    else if b = Ascii.backslash then
      match rest with
      | [] => .error (.here .eofString [])
      | e :: rest =>
        if e = Ascii.letterU then do
          let (_, rest) ← readHexUnit rest
          skipStringBytes bound rest
        else if (simpleEscape? e).isSome then skipStringBytes bound rest
        else .error (.here .invalidEscape rest)
    else if b < Ascii.space then .error (.here .controlCharacter (b :: rest))
    else skipStringBytes bound rest

/-- Skips a string, after its opening quote. -/
def skipString (bs : Bytes) : Except Fault Bytes := skipStringBytes bs bs

/-- Skips the exponent of a number, after its letter. -/
def skipExponent (bs : Bytes) : Except Fault Bytes :=
  let bs := match bs with
    | Ascii.plus :: rest => rest
    | Ascii.minus :: rest => rest
    | _ => bs
  match bs with
  | [] => .error (.here .invalidNumber [])
  | b :: rest =>
    if Ascii.isDigit b then .ok (rest.dropWhile Ascii.isDigit)
    else .error (.here .invalidNumber rest)

/-- Skips what may follow the digits of a fraction. -/
def skipAfterFraction (bs : Bytes) : Except Fault Bytes :=
  match bs with
  | b :: rest => if isExponentMark b then skipExponent rest else .ok bs
  | [] => .ok []

/-- Skips a number, after its sign. -/
def skipNumber : Bytes → Except Fault Bytes
  | [] => .error (.here .invalidNumber [])
  | b :: rest =>
    if !Ascii.isDigit b then .error (.here .invalidNumber rest)
    else if b = Ascii.zero ∧ (rest.head?.any Ascii.isDigit) then .error (.next .invalidNumber rest)
    else match rest.dropWhile Ascii.isDigit with
      | Ascii.dot :: rest =>
        if rest.head?.any Ascii.isDigit then skipAfterFraction (rest.dropWhile Ascii.isDigit)
        else .error (.next .invalidNumber rest)
      | rest => skipAfterFraction rest

/-- A value with parts that has been opened and not closed. -/
inductive Container where
  | list
  | object
  deriving DecidableEq, Repr

namespace Container

/-- The byte that closes the container. -/
def closer : Container → UInt8
  | .list => Ascii.closeBracket
  | .object => Ascii.closeBrace

/-- The cause when the document ends inside the container. -/
def eofCause : Container → Cause
  | .list => .eofList
  | .object => .eofObject

/-- The cause when a part is followed by neither a comma nor the end. -/
def endCause : Container → Cause
  | .list => .expectedListEnd
  | .object => .expectedObjectEnd

/-- Skips what stands before the next part: nothing in a list, a key and a colon in an object. -/
def skipKey (c : Container) (bs : Bytes) : Except Fault Bytes :=
  match c with
  | .list => .ok bs
  | .object => do
    let rest ← match skipBlank bs with
      | Ascii.quote :: rest => skipString rest
      | [] => throw (.next .eofObject [])
      | rest => throw (.next .keyNotString rest)
    match skipBlank rest with
    | Ascii.colon :: rest => return rest
    | [] => throw (.next .eofObject [])
    | rest => throw (.next .expectedColon rest)

end Container

/-- Skips a value without parts. -/
def skipScalar (bs : Bytes) : Except Fault Bytes :=
  match bs with
  | Ascii.letterN :: rest => readIdent ullBytes rest
  | Ascii.letterT :: rest => readIdent rueBytes rest
  | Ascii.letterF :: rest => readIdent alseBytes rest
  | Ascii.minus :: rest => skipNumber rest
  | Ascii.quote :: rest => skipString rest
  | [] => .error (.next .eofValue [])
  | b :: _ => if Ascii.isDigit b then skipNumber bs else .error (.next .expectedValue bs)

/-- What is awaited inside the innermost container. -/
inductive Awaiting where
  /-- Its first part or its end. -/
  | firstPart
  /-- A comma or its end. -/
  | nextPart
  deriving DecidableEq, Repr

/-- What there is still to skip. -/
structure Skipping where
  /-- The open containers, the innermost first. -/
  opened : List Container
  awaiting : Awaiting

/-- Skips a value without parts, or opens one with parts. -/
def skipFront (opened : List Container) (bs : Bytes) : Except Fault (Skipping × Bytes) :=
  match skipBlank bs with
  | Ascii.openBracket :: rest => .ok (⟨.list :: opened, .firstPart⟩, rest)
  | Ascii.openBrace :: rest => .ok (⟨.object :: opened, .firstPart⟩, rest)
  | bs => (skipScalar bs).map fun rest => (⟨opened, .nextPart⟩, rest)

/-- Skips the end of the innermost container, or what comes before its next part and the front of
that. -/
def skipPart (inner : Container) (outer : List Container) (awaiting : Awaiting) (bs : Bytes) :
    Except Fault (Skipping × Bytes) :=
  match skipBlank bs with
  | [] => .error (.next inner.eofCause [])
  | b :: rest =>
    if b = inner.closer then .ok (⟨outer, .nextPart⟩, rest)
    else match awaiting with
      | .firstPart => do skipFront (inner :: outer) (← inner.skipKey (b :: rest))
      | .nextPart =>
        if b = Ascii.comma then do skipFront (inner :: outer) (← inner.skipKey rest)
        else .error (.next inner.endCause (b :: rest))

/-- Skips the rest of the open containers, in at most as many steps as `bound` has bytes. -/
def skipOpen : (bound : Bytes) → Skipping → Bytes → Except Fault Bytes
  | _, ⟨[], _⟩, bs => .ok bs
  | [], ⟨inner :: _, _⟩, bs => .error (.next inner.eofCause bs)
  | _ :: bound, ⟨inner :: outer, awaiting⟩, bs => do
    let (left, rest) ← skipPart inner outer awaiting bs
    skipOpen bound left rest

/-- Skips a value. Every step takes a byte at least. -/
def skipValue (bs : Bytes) : Except Fault Bytes := do
  let (left, rest) ← skipFront [] bs
  skipOpen rest left rest

end CampaignFetch.Json

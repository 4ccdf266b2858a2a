import CampaignFetch.Json.Skip

/-!
# Reading values of a known type

Readers for the scalar types, options, lists and enumerations. A reader skips the blanks before its
value. When the value is of another type, a scalar is read first and the fault stands behind it; in
front of a list or an object the fault stands before the bracket.

Faults inside an item of a list carry the position of the item, faults of the punctuation between
the items do not.
-/

namespace CampaignFetch.Json

/-! ## Scalars -/

/-- The fault of a value, at the front of `bs`, that is not what was expected. -/
def wrongType (expected : String) (bs : Bytes) : Fault :=
  let found (r : Except Fault (Found × Bytes)) : Fault :=
    match r with
    | .ok (what, rest) => .here (.invalidType what expected) rest
    | .error fault => fault
  match bs with
  | Ascii.letterN :: rest => found ((readIdent ullBytes rest).map fun rest => (.null, rest))
  | Ascii.letterT :: rest => found ((readIdent rueBytes rest).map fun rest => (.bool true, rest))
  | Ascii.letterF :: rest => found ((readIdent alseBytes rest).map fun rest => (.bool false, rest))
  | Ascii.minus :: rest =>
    found ((readNumber true rest).map fun (n, rest) => (Found.ofNumber n, rest))
  | Ascii.quote :: rest => found ((readString rest).map fun (s, rest) => (Found.string s, rest))
  | Ascii.openBracket :: _ => .here (.invalidType .sequence expected) bs
  | Ascii.openBrace :: _ => .here (.invalidType .map expected) bs
  | b :: _ =>
    if Ascii.isDigit b then
      found ((readNumber false bs).map fun (n, rest) => (Found.ofNumber n, rest))
    else .next .expectedValue bs
  | [] => .next .expectedValue []

/-- Reads a string where `expected` names what the string is for. -/
def readStringAs (expected : String) : Reader String := fun bs =>
  match skipBlank bs with
  | [] => .error (.next .eofValue [])
  | Ascii.quote :: rest => readString rest
  | bs => .error (wrongType expected bs)

def readText : Reader String := readStringAs "a string"

/-- Accepts an integer of sixty-four bits with sign, before `rest`. -/
def acceptInt64 (n : Number) (rest : Bytes) : Except Fault (Int × Bytes) :=
  match n with
  | .int i =>
    if Text.fitsInt64 i then .ok (i, rest)
    else .error (.here (.invalidValue (.integer i) "i64") rest)
  | .float x => .error (.here (.invalidType (.float x) "i64") rest)

/-- Reads an integer of sixty-four bits with sign. -/
def readInt64 : Reader Int := fun bs =>
  match skipBlank bs with
  | [] => .error (.next .eofValue [])
  | Ascii.minus :: rest => do
    let (n, rest) ← readNumber true rest
    acceptInt64 n rest
  | b :: rest =>
    if Ascii.isDigit b then do
      let (n, rest) ← readNumber false (b :: rest)
      acceptInt64 n rest
    else .error (wrongType "i64" (b :: rest))

def readBool : Reader Bool := fun bs =>
  match skipBlank bs with
  | [] => .error (.next .eofValue [])
  | Ascii.letterT :: rest => (readIdent rueBytes rest).map fun rest => (true, rest)
  | Ascii.letterF :: rest => (readIdent alseBytes rest).map fun rest => (false, rest)
  | bs => .error (wrongType "a boolean" bs)

/-- Reads a string and what it stands for. -/
def readParsed {α : Type} (expected : String) (parse : String → Except String α) : Reader α :=
  fun bs => do
    let (s, rest) ← readStringAs expected bs
    match parse s with
    | .ok a => return (a, rest)
    | .error message => throw (.here (.other message) rest)

/-! ## Options and lists -/

/-- Reads null as nothing, and anything else as a value. -/
def readOption {α : Type} (value : Reader α) : Reader (Option α) := fun bs =>
  match skipBlank bs with
  | Ascii.letterN :: rest => (readIdent ullBytes rest).map fun rest => (none, rest)
  | bs => (value bs).map fun (a, rest) => (some a, rest)

/-- Moves to the next item of a list: `none` at the closing bracket, which stays unread. -/
def nextItem (first : Bool) (bs : Bytes) : Except Fault (Option Bytes) :=
  match skipBlank bs with
  | [] => .error (.next .eofList [])
  | Ascii.closeBracket :: _ => .ok none
  | b :: rest =>
    if first then .ok (some (b :: rest))
    else if b = Ascii.comma then
      match skipBlank rest with
      | [] => .error (.next .eofValue [])
      | Ascii.closeBracket :: more => .error (.next .trailingComma (Ascii.closeBracket :: more))
      | rest => .ok (some rest)
    else .error (.next .expectedListEnd (b :: rest))

/-- Takes the closing bracket of a list whose items have all been read. -/
def closeList (bs : Bytes) : Except Fault Bytes :=
  match skipBlank bs with
  | Ascii.closeBracket :: rest => .ok rest
  | Ascii.comma :: rest =>
    match skipBlank rest with
    | Ascii.closeBracket :: more => .error (.next .trailingComma (Ascii.closeBracket :: more))
    | rest => .error (.next .trailingCharacters rest)
  | [] => .error (.next .eofList [])
  | bs => .error (.next .trailingCharacters bs)

/-- The document after the end of a list that was given up, as far as it is there. -/
def passListEnd (bs : Bytes) : Bytes :=
  match closeList bs with
  | .ok rest => rest
  | .error fault => fault.rest bs

/-- Reads the items from position `index` on, of which there are fewer than `bound` has bytes. -/
def readItems {α : Type} (item : Reader α) : (bound : Bytes) → (index : Nat) → Reader (List α)
  | [], _, bs => .error (.next .eofList bs)
  | _ :: bound, index, bs => do
    match ← nextItem (index == 0) bs with
    | none => return ([], ← closeList bs)
    | some bs => do
      let (a, rest) ← (item bs).mapError (·.under (.index index))
      let (as, rest) ← readItems item bound (index + 1) rest
      return (a :: as, rest)

def readList {α : Type} (item : Reader α) : Reader (List α) := fun bs =>
  match skipBlank bs with
  | [] => .error (.next .eofValue [])
  | Ascii.openBracket :: rest => readItems item rest 0 rest
  | bs => .error (wrongType "a sequence" bs)

/-! ## Enumerations -/

/-- Reads the colon between a key and its value. -/
def readColon (bs : Bytes) : Except Fault Bytes :=
  match skipBlank bs with
  | Ascii.colon :: rest => .ok rest
  | [] => .error (.next .eofObject [])
  | bs => .error (.next .expectedColon bs)

/-- Reads null in the place of the content that a variant does not have. -/
def readUnit (bs : Bytes) : Except Fault Bytes :=
  match skipBlank bs with
  | [] => .error (.next .eofValue [])
  | Ascii.letterN :: rest => readIdent ullBytes rest
  | bs => .error (wrongType "unit" bs)

/-- The variant with the name, which ended before `rest`. -/
def acceptVariant {α : Type} (variants : List (String × α)) (name : String) (rest : Bytes) :
    Except Fault α :=
  match variants.find? fun v => v.1 = name with
  | some v => .ok v.2
  | none => .error (.here (.unknownVariant name (variants.map (·.1))) rest)

/-- Reads the key that names a variant. -/
def readVariantKey : Reader String := fun bs =>
  match skipBlank bs with
  | [] => .error (.next .eofObject [])
  | Ascii.quote :: rest => readString rest
  | Ascii.closeBrace :: rest => .error (.next .expectedValue (Ascii.closeBrace :: rest))
  | bs => .error (.next .keyNotString bs)

/-- Reads a variant: its name as a string, or an object with the name as key and null as value. -/
def readVariant {α : Type} (variants : List (String × α)) : Reader α := fun bs =>
  match skipBlank bs with
  | [] => .error (.next .eofValue [])
  | Ascii.quote :: rest => do
    let (name, rest) ← readString rest
    return (← acceptVariant variants name rest, rest)
  | Ascii.openBrace :: rest => do
    let (name, rest) ← readVariantKey rest
    let a ← acceptVariant variants name rest
    let rest ← readColon rest
    let rest ← (readUnit rest).mapError (·.under (.variant name))
    match skipBlank rest with
    | Ascii.closeBrace :: rest => return (a, rest)
    | [] => throw (.here .eofObject [])
    | rest => throw (.here .expectedValue rest)
  | bs => .error (.next .expectedValue bs)

/-! ## Whole documents -/

/-- Reads a value that takes up the whole document. -/
def readWhole {α : Type} (value : Reader α) (document : Bytes) : Except Fault α := do
  let (a, rest) ← value document
  match skipBlank rest with
  | [] => return a
  | rest => throw (.next .trailingCharacters rest)

end CampaignFetch.Json

import CampaignFetch.Json.Printer
import CampaignFetch.Text.Ascii
import CampaignFetch.Text.Quoted

/-!
# Why a document cannot be read

A fault has a cause, a place, and the path of fields and items that leads there. The place is kept
as the number of bytes that follow it; together with the whole document it gives the line and the
column. Lines count from one, the column counts the bytes of the line up to the place.

A fault also tells where the reader stands, so that reading can go on behind a value that is given
up (`readLeniently`). Mostly it stands at the place, but one byte before when that byte was only
looked at.
-/

namespace CampaignFetch.Json

/-- What a reader found in place of what it asked for. -/
inductive Found where
  | null
  | bool (value : Bool)
  | integer (value : Int)
  | float (value : Number.Binary64)
  | string (value : String)
  | sequence
  | map
  deriving DecidableEq, Repr

def Found.ofNumber : Number → Found
  | .int n => .integer n
  | .float x => .float x

def Found.ofJson : Json → Found
  | .null => .null
  | .bool b => .bool b
  | .number n => .ofNumber n
  | .string s => .string s
  | .array _ => .sequence
  | .object _ => .map

/-- The words of a message for what was found. -/
def Found.text : Found → String
  | .null => "null"
  | .bool b => s!"boolean `{b}`"
  | .integer n => "integer `" ++ Text.ofInt n ++ "`"
  | .float x => "floating point `" ++ x.text ++ "`"
  | .string s => "string " ++ Text.quoted s
  | .sequence => "sequence"
  | .map => "map"

inductive Cause where
  | eofValue
  | eofList
  | eofObject
  | eofString
  | expectedValue
  | expectedIdent
  | expectedColon
  | expectedListEnd
  | expectedObjectEnd
  | keyNotString
  | trailingComma
  | trailingCharacters
  | invalidNumber
  | numberOutOfRange
  | invalidEscape
  | loneSurrogate
  | endOfHexEscape
  | controlCharacter
  | invalidCodePoint
  | tooDeep
  | invalidType (found : Found) (expected : String)
  | invalidValue (found : Found) (expected : String)
  | invalidLength (length : Nat) (expected : String)
  | missingField (name : String)
  | duplicateField (name : String)
  | unknownVariant (found : String) (known : List String)
  | other (message : String)
  deriving DecidableEq, Repr

/-- The known variants of an unknown one: one, a choice of two, or a list. -/
def variantChoice (known : List String) : String :=
  let quoted := known.map fun v => "`" ++ v ++ "`"
  match quoted with
  | [] => "there are no variants"
  | [a] => "expected " ++ a
  | [a, b] => "expected " ++ a ++ " or " ++ b
  | vs => "expected one of " ++ ", ".intercalate vs

/-- Says what is wrong, without the place. -/
def Cause.message : Cause → String
  | .eofValue => "EOF while parsing a value"
  | .eofList => "EOF while parsing a list"
  | .eofObject => "EOF while parsing an object"
  | .eofString => "EOF while parsing a string"
  | .expectedValue => "expected value"
  | .expectedIdent => "expected ident"
  | .expectedColon => "expected `:`"
  | .expectedListEnd => "expected `,` or `]`"
  | .expectedObjectEnd => "expected `,` or `\x7d`"
  | .keyNotString => "key must be a string"
  | .trailingComma => "trailing comma"
  | .trailingCharacters => "trailing characters"
  | .invalidNumber => "invalid number"
  | .numberOutOfRange => "number out of range"
  | .invalidEscape => "invalid escape"
  | .loneSurrogate => "lone leading surrogate in hex escape"
  | .endOfHexEscape => "unexpected end of hex escape"
  | .controlCharacter => "control character (\\u0000-\\u001F) found while parsing a string"
  | .invalidCodePoint => "invalid unicode code point"
  | .tooDeep => "recursion limit exceeded"
  | .invalidType found expected => "invalid type: " ++ found.text ++ ", expected " ++ expected
  | .invalidValue found expected => "invalid value: " ++ found.text ++ ", expected " ++ expected
  | .invalidLength length expected => s!"invalid length {length}, expected " ++ expected
  | .missingField name => "missing field `" ++ name ++ "`"
  | .duplicateField name => "duplicate field `" ++ name ++ "`"
  | .unknownVariant found known => "unknown variant `" ++ found ++ "`, " ++ variantChoice known
  | .other message => message

/-- Whether the document is well written as far as the fault, but does not hold what was asked
for. -/
def Cause.isData : Cause → Bool
  | .invalidType .. | .invalidValue .. | .invalidLength .. | .missingField _
  | .duplicateField _ | .unknownVariant .. | .other _ => true
  | _ => false

/-- A step from a value to a part of it. -/
inductive Segment where
  | key (name : String)
  | index (position : Nat)
  | variant (name : String)
  deriving DecidableEq, Repr

/-- A fault of a document. -/
structure Fault where
  cause : Cause
  /-- The number of bytes that follow the place of the fault. -/
  remaining : Nat
  /-- The number of bytes that the reader left. -/
  unread : Nat
  /-- The way from the whole value to the part with the fault. -/
  path : List Segment
  deriving DecidableEq, Repr

namespace Fault

/-- A fault where the reader stands. -/
def here (cause : Cause) (rest : Bytes) : Fault := ⟨cause, rest.length, rest.length, []⟩

/-- A fault at the next byte, if there is one. The reader stands before it. -/
def next (cause : Cause) (rest : Bytes) : Fault := ⟨cause, rest.length - 1, rest.length, []⟩

/-- The fault as one of the whole value, when it was found in a part. -/
def under (s : Segment) (f : Fault) : Fault := { f with path := s :: f.path }

/-- The line and the column of the place after `before`. -/
def place (before : Bytes) : Nat × Nat :=
  (before.count Ascii.newline + 1, (before.reverse.takeWhile (· ≠ Ascii.newline)).length)

/-- The fault, found so many bytes after its place. -/
def lookingBack (distance : Nat) (f : Fault) : Fault :=
  { f with remaining := f.remaining + distance }

/-- What the reader of `bs` left. -/
def rest (f : Fault) (bs : Bytes) : Bytes := bs.drop (bs.length - f.unread)

/-- The fault of a reader of `bs` that leaves a list or an object by way of `close`. -/
def leaving (close : Bytes → Bytes) (bs : Bytes) (f : Fault) : Fault :=
  { f with unread := (close (f.rest bs)).length }

/-- Says what is wrong and where. -/
def message (f : Fault) (document : Bytes) : String :=
  let (line, column) := place (document.take (document.length - f.remaining))
  f.cause.message ++ s!" at line {line} column {column}"

/-- The text of a way that starts with `steps`, after `point` if a name comes first. -/
def stepsText (point : String) : (steps : List Segment) → String
  | [] => ""
  | .key name :: steps | .variant name :: steps => point ++ name ++ stepsText "." steps
  | .index position :: steps => s!"[{position}]" ++ stepsText "." steps

/-- The text of the path: names with points between, positions in brackets. -/
def pathText (f : Fault) : String := stepsText "" f.path

end Fault

/-- A reader takes a value from the front of a document and leaves the rest. -/
abbrev Reader (α : Type) := Bytes → Except Fault (α × Bytes)

/-- Reads a value, or gives it up and goes on from where its reader stands. -/
def readLeniently {α : Type} (value : Reader α) : Reader (Option α) := fun bs =>
  match value bs with
  | .ok (a, rest) => .ok (some a, rest)
  | .error fault => .ok (none, fault.rest bs)

end CampaignFetch.Json

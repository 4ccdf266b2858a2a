import CampaignFetch.Json.Reader

/-!
# Reading records

A record is written as an object, whose entries are named like the fields and come in any order, or
as an array with the fields in their own order.

In an object an unknown entry is skipped, an optional or defaulted field may be missing, and a field
may not be given twice. In an array only defaulted fields at the end may be missing.
-/

namespace CampaignFetch.Json

/-- What it means for a field to be missing. -/
inductive Presence where
  /-- The field has to be given. -/
  | required
  /-- An object may leave the field out. -/
  | optional
  /-- An object may leave the field out, and so may an array that ends before it. -/
  | defaulted
  deriving DecidableEq, Repr

/-- A field of the records of a type: its value turns a record without it into one with it. -/
structure Field (α : Type) where
  name : String
  presence : Presence
  read : Reader (α → α)

/-- A field that is read by `value` and stored by `put`. -/
def Field.of {α β : Type} (name : String) (presence : Presence) (value : Reader β)
    (put : β → α → α) : Field α :=
  { name, presence, read := fun bs => (value bs).map fun (b, rest) => (put b, rest) }

/-! ## Objects -/

/-- Moves into the next key of an object: `none` at the closing brace, which stays unread. -/
def nextKey (first : Bool) (bs : Bytes) : Except Fault (Option Bytes) :=
  match skipBlank bs with
  | [] => .error (.next .eofObject [])
  | Ascii.closeBrace :: _ => .ok none
  | b :: rest =>
    if first then
      if b = Ascii.quote then .ok (some rest) else .error (.next .keyNotString (b :: rest))
    else if b = Ascii.comma then
      match skipBlank rest with
      | [] => .error (.next .eofValue [])
      | Ascii.quote :: rest => .ok (some rest)
      | Ascii.closeBrace :: more => .error (.next .trailingComma (Ascii.closeBrace :: more))
      | rest => .error (.next .keyNotString rest)
    else .error (.next .expectedObjectEnd (b :: rest))

/-- The document after the closing brace, if it comes next. -/
def passBrace (bs : Bytes) : Bytes :=
  match skipBlank bs with
  | Ascii.closeBrace :: rest => rest
  | rest => rest

/-- Reads the entries of an object into `record`, of which there are fewer than `bound` has bytes,
after those named in `seen`. Gives the record and the names of all fields that were read. -/
def readFields {α : Type} (fields : List (Field α)) :
    (bound : Bytes) → (first : Bool) → (seen : List String) → (record : α) →
      Reader (α × List String)
  | [], _, _, _, bs => .error (.next .eofObject bs)
  | _ :: bound, first, seen, record, bs => do
    match ← nextKey first bs with
    | none => return ((record, seen), passBrace bs)
    | some bs => do
      let (key, rest) ← readString bs
      match fields.find? fun f => f.name = key with
      | some field =>
        if seen.contains key then throw (.here (.duplicateField key) (passBrace rest))
        let (put, rest) ← (field.read (← readColon rest)).mapError (·.under (.key key))
        readFields fields bound false (key :: seen) (put record) rest
      | none =>
        let rest ← (skipValue (← readColon rest)).mapError (·.under (.key key))
        readFields fields bound false seen record rest

/-- The first required field that was not read. -/
def missing? {α : Type} (fields : List (Field α)) (seen : List String) : Option String :=
  (fields.find? fun f => f.presence = .required && !seen.contains f.name).map (·.name)

/-! ## Arrays -/

/-- The words for a record of a type with so many fields, written as an array. -/
def arrayForm (type : String) (count : Nat) : String :=
  s!"struct {type} with {count} element" ++ (if count = 1 then "" else "s")

/-- Reads the remaining fields from position `index` on. -/
def readPositions {α : Type} (expected : String) :
    (fields : List (Field α)) → (index : Nat) → (record : α) → Reader α
  | [], _, record, bs => (closeList bs).map fun rest => (record, rest)
  | field :: fields, index, record, bs => do
    match ← nextItem (index == 0) bs with
    | some bs => do
      let (put, rest) ← (field.read bs).mapError (·.under (.index index))
      readPositions expected fields (index + 1) (put record) rest
    | none =>
      if field.presence = .defaulted then readPositions expected fields (index + 1) record bs
      else
        let rest ← closeList bs
        throw (.here (.invalidLength index expected) rest)

/-! ## Records -/

/-- Reads a record of the named type. Fields that may be missing are those of `blank`. -/
def readRecord {α : Type} (type : String) (fields : List (Field α)) (blank : α) : Reader α :=
  fun bs =>
    match skipBlank bs with
    | [] => .error (.next .eofValue [])
    | Ascii.openBracket :: rest =>
      readPositions (arrayForm type fields.length) fields 0 blank rest
    | Ascii.openBrace :: rest => do
      let ((record, seen), rest) ← readFields fields rest true [] blank rest
      match missing? fields seen with
      | none => return (record, rest)
      | some name => throw (.here (.missingField name) rest)
    | bs => .error (wrongType ("struct " ++ type) bs)

end CampaignFetch.Json

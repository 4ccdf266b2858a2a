import CampaignFetch.Database.Statement
import CampaignFetch.Fetch.Row

/-!
# Decoding rows of cells

The database holds timestamps to the microsecond. Every column must have a cell, a column that the
model needs must not be null, and a status must be one of the three; otherwise the row cannot be
decoded, and with it the whole reply.
-/

namespace CampaignFetch

abbrev Decoded (α : Type) := Except DatabaseFault α

namespace Cell

/-- An integer that may be null. -/
def int? : Cell → Decoded (Option Int)
  | .null => .ok none
  | .int n => .ok (some n)
  | .text _ => .error .columnDecode

/-- A text that may be null. -/
def text? : Cell → Decoded (Option String)
  | .null => .ok none
  | .text s => .ok (some s)
  | .int _ => .error .columnDecode

/-- A timestamp that may be null. -/
def timestamp? : Cell → Decoded (Option Calendar.Timestamp)
  | .null => .ok none
  | .text s => match Calendar.Layout.document.read s with
    | .ok t => .ok (some t.truncate)
    | .error _ => .error .columnDecode
  | .int _ => .error .columnDecode

/-- The value, which must not be null. -/
def required {α : Type} : Decoded (Option α) → Decoded α
  | .ok (some a) => .ok a
  | .ok none => .error .columnDecode
  | .error fault => .error fault

/-- A status, which must not be null. -/
def status (c : Cell) : Decoded Status := do
  match Status.ofText? (← required c.text?) with
  | some s => return s
  | none => throw .columnDecode

/-- The value of a column of the given type in a row of a join. -/
def value (type : ColumnType) (c : Cell) : Decoded Json :=
  match type with
  | .integer => c.int?.map fun n => (n.map Json.int).getD .null
  | .text => c.text?.map fun s => (s.map Json.string).getD .null
  | .timestamp => c.timestamp?.map fun t => (t.map fun t => .string t.microText).getD .null

end Cell

/-- A campaign from the cells of its columns in catalog order. -/
def Campaign.ofCells : Cells → Decoded Campaign
  | [id, name, ksName, status, createDate, lastUpdated] => do
    let status ← status.status
    return {
      id := some (← Cell.required id.int?)
      name := ← name.text?
      ksName := ← ksName.text?
      status := some status
      createDate := ← createDate.timestamp?
      lastUpdated := ← lastUpdated.timestamp? }
  | _ => .error .columnDecode

/-- An ad group from the cells of its columns in catalog order. -/
def AdGroup.ofCells : Cells → Decoded AdGroup
  | [id, campaignId, name, status, createDate, lastUpdated] => do
    let status ← status.status
    return {
      id := some (← Cell.required id.int?)
      campaignId := some (← Cell.required campaignId.int?)
      campaign := none
      name := ← name.text?
      status := some status
      createDate := ← createDate.timestamp?
      lastUpdated := ← lastUpdated.timestamp? }
  | _ => .error .columnDecode

/-- A row of a join from its cells in the order of the projection. -/
def Row.ofCells : (projection : List Column) → Cells → Row → Decoded Row
  | [], _, row => .ok row
  | _ :: _, [], _ => .error .columnDecode
  | c :: projection, cell :: cells, row => do
    let value ← cell.value c.type
    Row.ofCells projection cells (row.set c value)

end CampaignFetch

import CampaignFetch.Fetch.Column
import CampaignFetch.Json.Printer

/-!
# Rows of a join

A row gives a value for some columns of the two tables. A column without a value reads as null.

* `Row.text?` is the text form that conditions compare.
* `Entity.put` copies a column's value onto an entity; a value that does not fit the field, null
  included, leaves it unset.
-/

namespace CampaignFetch

/-! ## Values of columns -/

namespace Json

/-- The text form of a value; null has none. -/
def text? : Json → Option String
  | .null => none
  | .string s => some s
  | j => some j.sorted.text

/-- The integer of a value: a number or the text of one, in sixty-four bits with sign. -/
def int64? : Json → Option Int
  | .number (.int n) => if Text.fitsInt64 n then some n else none
  | .string s => Text.int64? s
  | _ => none

/-- The status that a value names. -/
def status? : Json → Option Status
  | .string s => Status.ofText? s
  | _ => none

/-- The timestamp that a value writes in the layout of columns. -/
def timestamp? : Json → Option Calendar.Timestamp
  | .string s => (Calendar.Layout.column.read s).toOption
  | _ => none

end Json

/-! ## Rows -/

structure Row where
  value? : Column → Option Json

namespace Row

/-- The row without any value. -/
def empty : Row := ⟨fun _ => none⟩

/-- The row with a value for one more column. -/
def set (r : Row) (c : Column) (value : Json) : Row :=
  ⟨fun d => if d = c then some value else r.value? d⟩

def get (r : Row) (c : Column) : Json := (r.value? c).getD .null

/-- The text form of a column. -/
def text? (r : Row) (c : Column) : Option String := (r.get c).text?

/-- The row with values for the given columns only. -/
def project (r : Row) (columns : List Column) : Row :=
  columns.foldl (fun out c => out.set c (r.get c)) empty

@[ext] theorem ext {r s : Row} (h : ∀ c, r.value? c = s.value? c) : r = s := by
  cases r
  cases s
  congr
  funext c
  exact h c

@[simp] theorem get_set (r : Row) (c d : Column) (value : Json) :
    (r.set c value).get d = if d = c then value else r.get d := by
  unfold get set
  by_cases h : d = c <;> simp [h]

@[simp] theorem get_empty (c : Column) : empty.get c = .null := rfl

end Row

/-! ## Entities from rows -/

/-- The types whose values are built from rows. -/
class Entity (α : Type) where
  kind : Kind
  blank : α
  /-- Copies the value of a column onto an entity. A column of another kind has no effect. -/
  put : Column → Json → α → α

instance : Entity Campaign where
  kind := .campaign
  blank := Campaign.blank
  put
    | .campaignId, j, c => { c with id := j.int64? }
    | .campaignName, j, c => { c with name := j.text? }
    | .campaignKsName, j, c => { c with ksName := j.text? }
    | .campaignStatus, j, c => { c with status := j.status? }
    | .campaignCreateDate, j, c => { c with createDate := j.timestamp? }
    | .campaignLastUpdated, j, c => { c with lastUpdated := j.timestamp? }
    | _, _, c => c

instance : Entity AdGroup where
  kind := .adGroup
  blank := AdGroup.blank
  put
    | .adGroupId, j, a => { a with id := j.int64? }
    | .adGroupCampaignId, j, a => { a with campaignId := j.int64? }
    | .adGroupName, j, a => { a with name := j.text? }
    | .adGroupStatus, j, a => { a with status := j.status? }
    | .adGroupCreateDate, j, a => { a with createDate := j.timestamp? }
    | .adGroupLastUpdated, j, a => { a with lastUpdated := j.timestamp? }
    | _, _, a => a

/-- The entity built from the given columns of a row. -/
def Row.build {α : Type} [Entity α] (r : Row) (columns : List Column) : α :=
  columns.foldl (fun entity c => Entity.put c (r.get c) entity) Entity.blank

end CampaignFetch

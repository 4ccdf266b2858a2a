import CampaignFetch.Json.Record

/-!
# Entity kinds and the lifecycle status

A campaign is the parent side of the relationship between the two kinds of entity, an ad group the
child side. Both carry a status. Deletion is logical: a row is never removed, only marked.
-/

namespace CampaignFetch

/-! ## Kinds -/

inductive Kind where
  | campaign
  | adGroup
  deriving DecidableEq, Repr

namespace Kind

/-- The name of the kind in documents. -/
def name : Kind → String
  | .campaign => "Campaign"
  | .adGroup => "AdGroup"

/-- The word before the point in a field name that is meant for this kind. -/
def scopeWord : Kind → String
  | .campaign => "campaign"
  | .adGroup => "adGroup"

/-- The table that holds the entities of this kind. -/
def table : Kind → String
  | .campaign => "campaign"
  | .adGroup => "ad_group"

/-- The other side of the join. -/
def other : Kind → Kind
  | .campaign => .adGroup
  | .adGroup => .campaign

@[simp] theorem other_other (k : Kind) : k.other.other = k := by cases k <;> rfl

theorem other_ne (k : Kind) : k.other ≠ k := by cases k <;> decide

def variants : List (String × Kind) :=
  [(campaign.name, campaign), (adGroup.name, adGroup)]

def read : Json.Reader Kind := Json.readVariant variants

end Kind

/-! ## Status -/

/-- The lifecycle status of a campaign or an ad group. -/
inductive Status where
  | active
  | paused
  | deleted
  deriving DecidableEq, Repr

namespace Status

/-- The text of a status in storage and in documents. -/
def text : Status → String
  | .active => "ACTIVE"
  | .paused => "PAUSED"
  | .deleted => "DELETED"

def variants : List (String × Status) :=
  [(active.text, active), (paused.text, paused), (deleted.text, deleted)]

/-- The status that the text names, in this very spelling. -/
def ofText? (s : String) : Option Status :=
  (variants.find? fun v => v.1 = s).map (·.2)

theorem ofText?_text (s : Status) : ofText? s.text = some s := by cases s <;> decide

def read : Json.Reader Status := Json.readVariant variants

end Status

end CampaignFetch

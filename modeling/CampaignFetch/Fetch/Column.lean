import CampaignFetch.Model.AdGroup

/-!
# The catalog of columns

Every column of the two tables, with the name by which requests ask for it. The columns of a kind,
in catalog order, are `Kind.columns`; this is the order of projections.

* `Kind.column?` finds a column by the name that requests use.
* `resolve` picks the columns for a list of names; the identity is always among them.
-/

namespace CampaignFetch

inductive ColumnType where
  | integer
  | text
  | timestamp
  deriving DecidableEq, Repr

/-- The columns of the campaign table and of the ad group table. -/
inductive Column where
  | campaignId
  | campaignName
  | campaignKsName
  | campaignStatus
  | campaignCreateDate
  | campaignLastUpdated
  | adGroupId
  | adGroupCampaignId
  | adGroupName
  | adGroupStatus
  | adGroupCreateDate
  | adGroupLastUpdated
  deriving DecidableEq, Repr

/-- The columns of a kind, in catalog order. -/
def Kind.columns : Kind → List Column
  | .campaign => [.campaignId, .campaignName, .campaignKsName, .campaignStatus,
      .campaignCreateDate, .campaignLastUpdated]
  | .adGroup => [.adGroupId, .adGroupCampaignId, .adGroupName, .adGroupStatus,
      .adGroupCreateDate, .adGroupLastUpdated]

def Kind.identity : Kind → Column
  | .campaign => .campaignId
  | .adGroup => .adGroupId

namespace Column

/-- The kind whose table has the column. -/
def kind : Column → Kind
  | campaignId | campaignName | campaignKsName | campaignStatus | campaignCreateDate
  | campaignLastUpdated => .campaign
  | adGroupId | adGroupCampaignId | adGroupName | adGroupStatus | adGroupCreateDate
  | adGroupLastUpdated => .adGroup

/-- The name of the column in its table. -/
def name : Column → String
  | campaignId | adGroupId => "id"
  | adGroupCampaignId => "campaign_id"
  | campaignName | adGroupName => "name"
  | campaignKsName => "ks_name"
  | campaignStatus | adGroupStatus => "status"
  | campaignCreateDate | adGroupCreateDate => "create_date"
  | campaignLastUpdated | adGroupLastUpdated => "last_updated"

/-- The name by which requests ask for the column. -/
def field : Column → String
  | campaignId | adGroupId => "id"
  | adGroupCampaignId => "campaignId"
  | campaignName | adGroupName => "name"
  | campaignKsName => "ksName"
  | campaignStatus | adGroupStatus => "status"
  | campaignCreateDate | adGroupCreateDate => "createDate"
  | campaignLastUpdated | adGroupLastUpdated => "lastUpdated"

def type : Column → ColumnType
  | campaignId | adGroupId | adGroupCampaignId => .integer
  | campaignName | campaignKsName | campaignStatus | adGroupName | adGroupStatus => .text
  | campaignCreateDate | campaignLastUpdated | adGroupCreateDate | adGroupLastUpdated => .timestamp

/-- The column in a statement: table and name, each between double quotes. -/
def qualified (c : Column) : String := "\"" ++ c.kind.table ++ "\".\"" ++ c.name ++ "\""

/-- The name of the column in a result with both tables. -/
def label (c : Column) : String := c.kind.table ++ "__" ++ c.name

end Column

theorem mem_columns_iff {k : Kind} {c : Column} : c ∈ k.columns ↔ c.kind = k := by
  cases k <;> cases c <;> decide

theorem mem_columns_append (c : Column) : c ∈ Kind.campaign.columns ++ Kind.adGroup.columns := by
  cases c <;> decide

theorem Kind.identity_kind (k : Kind) : k.identity.kind = k := by cases k <;> rfl

/-- The name by which requests ask for an identity. -/
def identityField : String := "id"

/-- The names of all fields of a kind, in catalog order. -/
def Kind.fieldNames (k : Kind) : List String := k.columns.map Column.field

/-- The column of a kind behind a name in a request. -/
def Kind.column? (k : Kind) (name : String) : Option Column :=
  k.columns.find? fun c => c.field = name

/-- The columns of a kind for the names in a request, in catalog order. Unknown names are dropped,
the identity is always there. -/
def resolve (k : Kind) (names : List String) : List Column :=
  k.columns.filter fun c => c.field = identityField || names.contains c.field

end CampaignFetch

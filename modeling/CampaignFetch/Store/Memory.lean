import CampaignFetch.Fetch.JoinQuery

/-!
# A store in memory

Two tables in memory that answer join queries as a database would: the rows of the join, ordered by
the primary identity and then by the related one with nulls last, those that satisfy the condition,
with values for the projected columns only.
-/

namespace CampaignFetch

structure MemoryStore where
  campaigns : List Campaign
  adGroups : List AdGroup
  deriving DecidableEq

/-- The value of an optional field. -/
def Json.ofOption {α : Type} (write : α → Json) (x : Option α) : Json := (x.map write).getD .null

/-- Puts the columns of a campaign into a row. -/
def Row.withCampaign (c : Campaign) (r : Row) : Row :=
  ((((((r.set .campaignId (.ofOption .int c.id))
    ).set .campaignName (.ofOption .string c.name)
    ).set .campaignKsName (.ofOption .string c.ksName)
    ).set .campaignStatus (.ofOption (fun s => .string s.text) c.status)
    ).set .campaignCreateDate (.ofOption (fun t => .string t.microText) c.createDate)
    ).set .campaignLastUpdated (.ofOption (fun t => .string t.microText) c.lastUpdated)

/-- Puts the columns of an ad group into a row. -/
def Row.withAdGroup (a : AdGroup) (r : Row) : Row :=
  ((((((r.set .adGroupId (.ofOption .int a.id))
    ).set .adGroupCampaignId (.ofOption .int a.campaignId)
    ).set .adGroupName (.ofOption .string a.name)
    ).set .adGroupStatus (.ofOption (fun s => .string s.text) a.status)
    ).set .adGroupCreateDate (.ofOption (fun t => .string t.microText) a.createDate)
    ).set .adGroupLastUpdated (.ofOption (fun t => .string t.microText) a.lastUpdated)

/-- Whether an ad group refers to a campaign. A null identity refers to nothing. -/
def AdGroup.belongsTo (a : AdGroup) (c : Campaign) : Bool :=
  match a.campaignId with
  | some id => c.id = some id
  | none => false

namespace MemoryStore

/-- The rows of a campaign, one for each of its ad groups; without any there is one row in a left
join. -/
def campaignRows (m : MemoryStore) (join : Join) (c : Campaign) : List Row :=
  let children := m.adGroups.filter fun a => a.belongsTo c
  if children.isEmpty && join = .left then [Row.empty.withCampaign c]
  else children.map fun a => (Row.empty.withAdGroup a).withCampaign c

/-- The row of an ad group with the first campaign that it refers to; without any there is a row in
a left join only. -/
def adGroupRows (m : MemoryStore) (join : Join) (a : AdGroup) : List Row :=
  match m.campaigns.find? fun c => a.belongsTo c with
  | some c => [(Row.empty.withCampaign c).withAdGroup a]
  | none => if join = .left then [Row.empty.withAdGroup a] else []

/-- Whether an identity comes before another or is equal to it; null comes last. -/
def idLe (a b : Option Int) : Bool :=
  match a, b with
  | some m, some n => m ≤ n
  | some _, none => true
  | none, some _ => false
  | none, none => true

/-- The identity that a row is ordered by. -/
def orderId (row : Row) (kind : Kind) : Option Int :=
  match row.get kind.identity with
  | .number (.int n) => if Text.fitsInt64 n then some n else none
  | _ => none

/-- Whether a row comes before another or is equal in order to it. -/
def rowLe (primary : Kind) (r s : Row) : Bool :=
  let a := orderId r primary
  let b := orderId s primary
  if a = b then idLe (orderId r primary.other) (orderId s primary.other) else idLe a b

/-- All rows of a join, in order. -/
def joinedRows (m : MemoryStore) (q : JoinQuery) : List Row :=
  let rows := match q.primary with
    | .campaign => m.campaigns.flatMap (m.campaignRows q.join)
    | .adGroup => m.adGroups.flatMap (m.adGroupRows q.join)
  rows.mergeSort (rowLe q.primary)

def fetchRows (m : MemoryStore) (q : JoinQuery) : List Row :=
  ((m.joinedRows q).filter q.accepts).map fun row => row.project q.projection

end MemoryStore

/-! ## Sample entities -/

/-- The time of day and the day on which samples were made. -/
def sampleTime : Option Calendar.Timestamp := Calendar.Timestamp.ofParts? 2024 1 15 9 30 0 0

def Campaign.sample (id : Int) (name ksName : String) (status : Status) : Campaign :=
  ⟨some id, some name, some ksName, some status, sampleTime, sampleTime⟩

/-- An ad group with all fields of its own set. -/
def AdGroup.sample (id campaignId : Int) (name : String) (status : Status) : AdGroup :=
  ⟨some id, some campaignId, none, some name, some status, sampleTime, sampleTime⟩

end CampaignFetch

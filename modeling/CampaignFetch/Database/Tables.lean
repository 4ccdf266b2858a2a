import CampaignFetch.Database.Decode
import CampaignFetch.Database.Program

/-!
# The two tables

What is asked of the campaign table and of the ad group table, apart from joins. Each request is one
statement, except that the live ad groups of a name take two: the groups and then their campaigns.
Deleting a row marks it as deleted.

* `Access` is the type of programs that can fail with a database fault.
* `Access.all`, `Access.first?` and `Access.one` send a statement and decode what comes back.
-/

namespace CampaignFetch

/-- A program that gives a value or fails with a database fault. -/
abbrev Access (α : Type) := ExceptT DatabaseFault Program α

namespace Access

variable {α : Type}

/-- A value that may already have failed. -/
def ofDecoded (d : Decoded α) : Access α := ExceptT.mk (.done d)

/-- All rows that a statement gives. -/
def all (decode : Cells → Decoded α) (s : Statement) : Access (List α) := do
  ofDecoded ((← Program.ask s).mapM decode)

/-- The first row that a statement gives, if there is one. Further rows are not looked at. -/
def first? (decode : Cells → Decoded α) (s : Statement) : Access (Option α) := do
  match ← Program.ask s with
  | [] => return none
  | cells :: _ => ofDecoded ((decode cells).map some)

/-- The first row of a statement that has to give one. -/
def one (decode : Cells → Decoded α) (s : Statement) : Access α := do
  match ← first? decode s with
  | some a => return a
  | none => throw .rowNotFound

/-- Asks whether the database answers at all. -/
def check : Access Unit := do
  let _ ← Program.ask ⟨"SELECT 1", []⟩

end Access

/-- The columns of a kind as a list in a statement. -/
def Kind.columnList (k : Kind) : String := ", ".intercalate (k.columns.map Column.name)

/-! ## Statements for either table -/

namespace Kind

def selectById (k : Kind) (id : Int) : Statement :=
  ⟨"SELECT " ++ k.columnList ++ " FROM " ++ k.table ++ " WHERE id = $1", [.int id]⟩

def markDeleted (k : Kind) (id : Int) : Statement :=
  ⟨"UPDATE " ++ k.table ++ " SET status = $1, last_updated = now() WHERE id = $2 RETURNING " ++
    k.columnList, [.text Status.deleted.text, .int id]⟩

end Kind

/-- A text that may be null. -/
def Param.ofText? : Option String → Param
  | some s => .text s
  | none => .null

/-! ## Campaigns -/

namespace CampaignTable

def create (new : NewCampaign) : Access Campaign :=
  .one Campaign.ofCells ⟨
    "INSERT INTO campaign (name, ks_name, status) VALUES ($1, $2, $3) RETURNING "
      ++ Kind.campaign.columnList,
    [.text new.name, .ofText? new.ksName, .text new.status.text]⟩

def find? (id : Int) : Access (Option Campaign) :=
  .first? Campaign.ofCells (Kind.campaign.selectById id)

/-- The campaigns with the given identities, in order of identity. -/
def findAll (ids : List Int) : Access (List Campaign) :=
  if ids.isEmpty then return []
  else .all Campaign.ofCells ⟨"SELECT " ++ Kind.campaign.columnList ++
    " FROM campaign WHERE id = ANY($1) ORDER BY id", [.ints ids]⟩

def update? (id : Int) (change : CampaignUpdate) : Access (Option Campaign) :=
  .first? Campaign.ofCells ⟨"UPDATE campaign SET name = $1, ks_name = $2, status = $3, " ++
    "last_updated = now() WHERE id = $4 RETURNING " ++ Kind.campaign.columnList,
    [.text change.name, .ofText? change.ksName, .text change.status.text, .int id]⟩

def delete? (id : Int) : Access (Option Campaign) :=
  .first? Campaign.ofCells (Kind.campaign.markDeleted id)

end CampaignTable

/-! ## Ad groups -/

namespace AdGroupTable

def create (new : NewAdGroup) : Access AdGroup :=
  .one AdGroup.ofCells
    ⟨"INSERT INTO ad_group (campaign_id, name, status) VALUES ($1, $2, $3) RETURNING " ++
      Kind.adGroup.columnList,
      [.int new.campaignId, .text new.name, .text new.status.text]⟩

def find? (id : Int) : Access (Option AdGroup) :=
  .first? AdGroup.ofCells (Kind.adGroup.selectById id)

def update? (id : Int) (change : AdGroupUpdate) : Access (Option AdGroup) :=
  .first? AdGroup.ofCells ⟨"UPDATE ad_group SET name = $1, status = $2, last_updated = now() " ++
    "WHERE id = $3 RETURNING " ++ Kind.adGroup.columnList,
    [.text change.name, .text change.status.text, .int id]⟩

def delete? (id : Int) : Access (Option AdGroup) :=
  .first? AdGroup.ofCells (Kind.adGroup.markDeleted id)

/-- Selects the ad groups that are not deleted, of the campaigns with a name that are not deleted
either. -/
def selectLive (ksName : String) : Statement :=
  ⟨"SELECT ag.id, ag.campaign_id, ag.name, ag.status, ag.create_date, ag.last_updated " ++
    "FROM ad_group ag INNER JOIN campaign c ON ag.campaign_id = c.id " ++
    "WHERE c.ks_name = $1 AND c.status <> $2 AND ag.status <> $2 ORDER BY ag.id",
    [.text ksName, .text Status.deleted.text]⟩

/-- Puts an identity into an ascending list, unless it is there. -/
def insertId (id : Int) : List Int → List Int
  | [] => [id]
  | x :: xs => if id < x then id :: x :: xs else if id = x then x :: xs else x :: insertId id xs

/-- The identities of the campaigns of ad groups, ascending, each once. -/
def campaignIds (groups : List AdGroup) : List Int :=
  (groups.filterMap AdGroup.campaignId).foldr insertId []

/-- The ad group with its campaign among the given ones; of several with its identity the last one
counts. -/
def embed (campaigns : List Campaign) (group : AdGroup) : AdGroup :=
  { group with
    campaign := group.campaignId.bind fun id => campaigns.reverse.find? fun c => c.id = some id }

/-- The live ad groups of a campaign name, each with its campaign. -/
def findLive (ksName : String) : Access (List AdGroup) := do
  let groups ← .all AdGroup.ofCells (selectLive ksName)
  let campaigns ← CampaignTable.findAll (campaignIds groups)
  return groups.map (embed campaigns)

end AdGroupTable

end CampaignFetch

import CampaignFetch.Model.Campaign

/-!
# Ad groups

Like a campaign, an ad group has only the fields that were asked for. It can embed the campaign that
it belongs to.
-/

namespace CampaignFetch

open Calendar (Timestamp)

/-- An ad group with any of its fields set. -/
structure AdGroup where
  id : Option Int
  campaignId : Option Int
  campaign : Option Campaign
  name : Option String
  status : Option Status
  createDate : Option Timestamp
  lastUpdated : Option Timestamp
  deriving DecidableEq

namespace AdGroup

def blank : AdGroup := ⟨none, none, none, none, none, none, none⟩

def toJson (a : AdGroup) : Json :=
  .object (setEntries [
    ("id", a.id.map Json.int),
    ("campaign_id", a.campaignId.map Json.int),
    ("campaign", a.campaign.map (·.toJson)),
    ("name", a.name.map Json.string),
    ("status", a.status.map fun s => .string s.text),
    ("create_date", a.createDate.map (·.toJson)),
    ("last_updated", a.lastUpdated.map (·.toJson))])

def fields : List (Json.Field AdGroup) := [
  .of "id" .optional (Json.readOption Json.readInt64) fun x a => { a with id := x },
  .of "campaign_id" .optional (Json.readOption Json.readInt64)
    fun x a => { a with campaignId := x },
  .of "campaign" .optional (Json.readOption Campaign.read) fun x a => { a with campaign := x },
  .of "name" .optional (Json.readOption Json.readText) fun x a => { a with name := x },
  .of "status" .optional (Json.readOption Status.read) fun x a => { a with status := x },
  .of "create_date" .optional (Json.readOption Timestamp.read)
    fun x a => { a with createDate := x },
  .of "last_updated" .optional (Json.readOption Timestamp.read)
    fun x a => { a with lastUpdated := x }]

def read : Json.Reader AdGroup := Json.readRecord "AdGroup" fields blank

end AdGroup

/-- What a new ad group is made from. -/
structure NewAdGroup where
  campaignId : Int
  name : String
  status : Status
  deriving DecidableEq

namespace NewAdGroup

/-- The fields of the body; an ad group is active unless the body says otherwise. -/
def fields : List (Json.Field NewAdGroup) := [
  .of "campaign_id" .required Json.readInt64 fun x b => { b with campaignId := x },
  .of "name" .required Json.readText fun x b => { b with name := x },
  .of "status" .defaulted Status.read fun x b => { b with status := x }]

def read : Json.Reader NewAdGroup := Json.readRecord "NewAdGroup" fields ⟨0, "", .active⟩

end NewAdGroup

/-- What an ad group is changed to. Its campaign stays the same. -/
structure AdGroupUpdate where
  name : String
  status : Status
  deriving DecidableEq

namespace AdGroupUpdate

def fields : List (Json.Field AdGroupUpdate) := [
  .of "name" .required Json.readText fun x b => { b with name := x },
  .of "status" .required Status.read fun x b => { b with status := x }]

def read : Json.Reader AdGroupUpdate := Json.readRecord "AdGroupUpdate" fields ⟨"", .active⟩

end AdGroupUpdate

end CampaignFetch

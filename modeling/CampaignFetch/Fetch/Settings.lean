import CampaignFetch.Json.Record

/-!
# Settings of the fetch engine

A cap on the number of groups that one fetch gives, and for each of the two directions what happens
when no related field is named and when a row has no related side.
-/

namespace CampaignFetch

/-- What may differ between the two directions. -/
structure DirectionSettings where
  /-- When no related field is named, all of them are fetched and not the identity alone. -/
  allFieldsWhenEmpty : Bool
  /-- A row without a related identity still adds a related entity. -/
  keepRowsWithoutRelated : Bool
  deriving DecidableEq, Repr

namespace DirectionSettings

/-- The usual settings for campaigns with their ad groups. -/
def campaignDefault : DirectionSettings := ⟨false, false⟩

/-- The usual settings for ad groups with their campaign. -/
def adGroupDefault : DirectionSettings := ⟨true, true⟩

def toJson (d : DirectionSettings) : Json :=
  .object [("default_to_all_fields_when_empty", .bool d.allFieldsWhenEmpty),
    ("keep_rows_without_related", .bool d.keepRowsWithoutRelated)]

def fields : List (Json.Field DirectionSettings) := [
  .of "default_to_all_fields_when_empty" .required Json.readBool
    fun x d => { d with allFieldsWhenEmpty := x },
  .of "keep_rows_without_related" .required Json.readBool
    fun x d => { d with keepRowsWithoutRelated := x }]

def read : Json.Reader DirectionSettings :=
  Json.readRecord "DirectionConfig" fields campaignDefault

end DirectionSettings

/-- The settings of the engine. -/
structure FetchSettings where
  /-- The greatest number of groups, if there is a cap. -/
  maxLimit : Option Int
  /-- Whether statements are logged. -/
  debugLogging : Bool
  campaign : DirectionSettings
  adGroup : DirectionSettings
  deriving DecidableEq, Repr

namespace FetchSettings

/-- Settings with the usual directions, a cap of 100 and no logging. -/
def standard : FetchSettings :=
  ⟨some 100, false, .campaignDefault, .adGroupDefault⟩

def toJson (s : FetchSettings) : Json :=
  .object [("max_limit", (s.maxLimit.map Json.int).getD .null),
    ("debug_logging", .bool s.debugLogging), ("campaign", s.campaign.toJson),
    ("ad_group", s.adGroup.toJson)]

def fields : List (Json.Field FetchSettings) := [
  .of "max_limit" .optional (Json.readOption Json.readInt64) fun x s => { s with maxLimit := x },
  .of "debug_logging" .required Json.readBool fun x s => { s with debugLogging := x },
  .of "campaign" .required DirectionSettings.read fun x s => { s with campaign := x },
  .of "ad_group" .required DirectionSettings.read fun x s => { s with adGroup := x }]

def read : Json.Reader FetchSettings :=
  Json.readRecord "FetchConfig" fields { standard with maxLimit := none }

end FetchSettings

end CampaignFetch

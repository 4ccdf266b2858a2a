import CampaignFetch.Calendar.Reading
import CampaignFetch.Model.Status

/-!
# Campaigns

A campaign as it is fetched has only the fields that were asked for; the others are unset, and are
left out of its document. Creating and updating take bodies of their own.
-/

namespace CampaignFetch

/-- Entries for the fields that are set. -/
def setEntries (fields : List (String × Option Json)) : List (String × Json) :=
  fields.filterMap fun (name, value) => value.map fun j => (name, j)

def Calendar.Timestamp.toJson (t : Calendar.Timestamp) : Json := .string t.text

def Calendar.Timestamp.read : Json.Reader Calendar.Timestamp :=
  Json.readParsed "a formatted date and time string" fun s =>
    (Calendar.Layout.document.read s).mapError (·.message)

open Calendar (Timestamp)

/-- A campaign with any of its fields set. -/
structure Campaign where
  id : Option Int
  name : Option String
  ksName : Option String
  status : Option Status
  createDate : Option Timestamp
  lastUpdated : Option Timestamp
  deriving DecidableEq

namespace Campaign

def blank : Campaign := ⟨none, none, none, none, none, none⟩

def toJson (c : Campaign) : Json :=
  .object (setEntries [
    ("id", c.id.map Json.int),
    ("name", c.name.map Json.string),
    ("ks_name", c.ksName.map Json.string),
    ("status", c.status.map fun s => .string s.text),
    ("create_date", c.createDate.map (·.toJson)),
    ("last_updated", c.lastUpdated.map (·.toJson))])

def fields : List (Json.Field Campaign) := [
  .of "id" .optional (Json.readOption Json.readInt64) fun x c => { c with id := x },
  .of "name" .optional (Json.readOption Json.readText) fun x c => { c with name := x },
  .of "ks_name" .optional (Json.readOption Json.readText) fun x c => { c with ksName := x },
  .of "status" .optional (Json.readOption Status.read) fun x c => { c with status := x },
  .of "create_date" .optional (Json.readOption Timestamp.read)
    fun x c => { c with createDate := x },
  .of "last_updated" .optional (Json.readOption Timestamp.read)
    fun x c => { c with lastUpdated := x }]

def read : Json.Reader Campaign := Json.readRecord "Campaign" fields blank

end Campaign

/-- What a new campaign is made from. -/
structure NewCampaign where
  name : String
  ksName : Option String
  status : Status
  deriving DecidableEq

namespace NewCampaign

/-- The fields of the body; a campaign is active unless the body says otherwise. -/
def fields : List (Json.Field NewCampaign) := [
  .of "name" .required Json.readText fun x b => { b with name := x },
  .of "ks_name" .optional (Json.readOption Json.readText) fun x b => { b with ksName := x },
  .of "status" .defaulted Status.read fun x b => { b with status := x }]

def read : Json.Reader NewCampaign := Json.readRecord "NewCampaign" fields ⟨"", none, .active⟩

end NewCampaign

/-- What a campaign is changed to. -/
structure CampaignUpdate where
  name : String
  ksName : Option String
  status : Status
  deriving DecidableEq

namespace CampaignUpdate

def fields : List (Json.Field CampaignUpdate) := [
  .of "name" .required Json.readText fun x b => { b with name := x },
  .of "ks_name" .optional (Json.readOption Json.readText) fun x b => { b with ksName := x },
  .of "status" .required Status.read fun x b => { b with status := x }]

def read : Json.Reader CampaignUpdate :=
  Json.readRecord "CampaignUpdate" fields ⟨"", none, .active⟩

end CampaignUpdate

end CampaignFetch

import CampaignFetch.Database.Program
import CampaignFetch.Fetch.Assembly
import CampaignFetch.Fetch.Settings

/-!
# The fetch engine

A fetch turns a request into one join, fetches it and assembles the rows. What can be refused is
refused before the join: first a limit below one, then an unsupported operator.

* `FetchSettings.plan` is everything that happens before the join.
* `fetchGroups` fetches the groups of either direction; `fetchCampaigns` and `fetchAdGroups` give
  them the form of results.
-/

namespace CampaignFetch

structure CampaignResult where
  campaign : Campaign
  adGroups : List AdGroup
  deriving DecidableEq

def CampaignResult.toJson (r : CampaignResult) : Json :=
  .object [("campaign", r.campaign.toJson), ("ad_groups", .array (r.adGroups.map (·.toJson)))]

/-- What is known about a fetch before its join. -/
structure FetchPlan where
  own : List Column
  related : List Column
  query : JoinQuery
  /-- The greatest number of groups, if there is one. -/
  limit : Option Nat
  /-- Whether a row without related identity adds a related entity. -/
  keep : Bool
  deriving Repr

namespace FetchSettings

/-- The settings of the direction in which a kind is primary. -/
def direction (s : FetchSettings) : Kind → DirectionSettings
  | .campaign => s.campaign
  | .adGroup => s.adGroup

/-- The limit of a request under the cap. -/
def effectiveLimit (s : FetchSettings) (limit : Int) : Except FetchFault Int :=
  if limit < 1 then .error (.limitNotPositive limit)
  else match s.maxLimit with
    | some cap => .ok (if limit > cap then cap else limit)
    | none => .ok limit

/-- The number of groups that a limit allows; a limit below zero sets no bound. -/
def groupLimit (limit : Int) : Option Nat := if limit < 0 then none else some limit.toNat

/-- Plans the fetch of a request in the direction of a primary kind. -/
def plan (s : FetchSettings) (primary : Kind) (request : Request) :
    Except FetchFault FetchPlan := do
  let limit ← s.effectiveLimit request.limit
  let direction := s.direction primary
  let selection := Selection.of primary direction.allFieldsWhenEmpty request.fields
  let restriction ← Restriction.of primary request.filters
  let own := resolve primary selection.primary
  let related := resolve primary.other selection.related
  return {
    own
    related
    query := JoinQuery.of primary own related restriction
    limit := groupLimit limit
    keep := direction.keepRowsWithoutRelated }

end FetchSettings

/-- Fetches the groups of a request, the primary ones being of type `P`. -/
def fetchGroups (P R : Type) [Entity P] [Entity R] (s : FetchSettings) (request : Request) :
    ExceptT FetchFault Program (List (Group P R)) :=
  match s.plan (Entity.kind P) request with
  | .error fault => throw fault
  | .ok plan =>
    ExceptT.mk (.join plan.query fun reply => .done (match reply with
      | .error fault => .error (.execution fault)
      | .ok rows => .ok (assemble plan.own plan.related plan.limit plan.keep rows)))

/-- Fetches campaigns with their ad groups. -/
def fetchCampaigns (s : FetchSettings) (request : Request) :
    ExceptT FetchFault Program (List CampaignResult) := do
  let groups ← fetchGroups Campaign AdGroup s request
  return groups.map fun g => ⟨g.primary, g.related⟩

/-- Fetches ad groups, each with the campaign that it belongs to. -/
def fetchAdGroups (s : FetchSettings) (request : Request) :
    ExceptT FetchFault Program (List AdGroup) := do
  let groups ← fetchGroups AdGroup Campaign s request
  return groups.map fun g => { g.primary with campaign := g.related.head? }

/-- The documents of what a request fetches when entities of the given kind come first. -/
def fetchDocuments (s : FetchSettings) (primary : Kind) (request : Request) :
    ExceptT FetchFault Program (List Json) := do
  match primary with
  | .campaign => return (← fetchCampaigns s request).map CampaignResult.toJson
  | .adGroup => return (← fetchAdGroups s request).map AdGroup.toJson

end CampaignFetch

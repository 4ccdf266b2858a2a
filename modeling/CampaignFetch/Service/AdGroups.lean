import CampaignFetch.Service.Fault

/-!
# The ad group service

Creating, getting, changing and deleting ad groups, and listing those of a campaign name. A new ad
group needs a name that is not blank and a campaign that exists.
-/

namespace CampaignFetch.AdGroups

def create (new : NewAdGroup) : Service AdGroup := do
  Service.requireName new.name
  match ← Service.ofAccess (CampaignTable.find? new.campaignId) with
  | none => throw (.missingReference "campaign_id")
  | some _ => .ofAccess (AdGroupTable.create new)

def get (id : Int) : Service AdGroup := .found .adGroup id (AdGroupTable.find? id)

def update (id : Int) (change : AdGroupUpdate) : Service AdGroup := do
  Service.requireName change.name
  .found .adGroup id (AdGroupTable.update? id change)

def delete (id : Int) : Service AdGroup := .found .adGroup id (AdGroupTable.delete? id)

/-- Lists the live ad groups of a campaign name. -/
def live (ksName : String) : Service (List AdGroup) := .ofAccess (AdGroupTable.findLive ksName)

end CampaignFetch.AdGroups

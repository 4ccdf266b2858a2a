import CampaignFetch.Service.Fault

/-!
# The campaign service

Creating, getting, changing and deleting campaigns. A name must not be blank.
-/

namespace CampaignFetch.Campaigns

def create (new : NewCampaign) : Service Campaign := do
  Service.requireName new.name
  .ofAccess (CampaignTable.create new)

def get (id : Int) : Service Campaign := .found .campaign id (CampaignTable.find? id)

def update (id : Int) (change : CampaignUpdate) : Service Campaign := do
  Service.requireName change.name
  .found .campaign id (CampaignTable.update? id change)

def delete (id : Int) : Service Campaign := .found .campaign id (CampaignTable.delete? id)

end CampaignFetch.Campaigns

import CampaignFetch.Model.Status
import CampaignFetch.Text.Split

/-!
# Routes

The paths that are served and the methods that each allows. A path is matched segment by segment; a
fixed word goes before a parameter, and a parameter is never empty.

* `Route.ofPath?` finds the route of a path.
* `Route.allow` lists the methods of a route; who may get may also ask for the head alone.
-/

namespace CampaignFetch.Http

inductive Method where
  | get
  | post
  | put
  | delete
  deriving DecidableEq, Repr

/-- The names of requests that use the method. -/
def Method.names : Method → List String
  | .get => ["GET", "HEAD"]
  | .post => ["POST"]
  | .put => ["PUT"]
  | .delete => ["DELETE"]

/-- What a path leads to. Parameters are kept as they stand in the path. -/
inductive Route where
  | root
  | health
  | collection (kind : Kind)
  /-- Fetches that begin with a kind. -/
  | fetch (kind : Kind)
  | entity (kind : Kind) (id : String)
  /-- The live ad groups of a campaign name. -/
  | live (ksName : String)
  deriving DecidableEq, Repr

namespace Route

/-- The kind whose table a segment names. -/
def kind? (segment : String) : Option Kind :=
  if segment = Kind.campaign.table then some .campaign
  else if segment = Kind.adGroup.table then some .adGroup
  else none

def fetchWord : String := "fetch"

/-- The route of the segments after the root of the interface. -/
def ofSegments? : List String → Option Route
  | [table] => (kind? table).map .collection
  | [table, last] => do
    let kind ← kind? table
    if last.isEmpty then none
    else if last = fetchWord then some (.fetch kind)
    else some (.entity kind last)
  | ["ad_group", "by_ks_name", ksName] => if ksName.isEmpty then none else some (.live ksName)
  | _ => none

/-- The route of a path. -/
def ofPath? (path : String) : Option Route :=
  match (Text.pieces '/' path.toList).map String.ofList with
  | ["", ""] => some .root
  | ["", "health"] => some .health
  | "" :: "api" :: "v1" :: segments => ofSegments? segments
  | _ => none

def methods : Route → List Method
  | root | health | fetch _ | live _ => [.get]
  | collection _ => [.post]
  | entity .. => [.get, .put, .delete]

/-- The names of the methods of a route. -/
def allow (r : Route) : String := ",".intercalate (r.methods.flatMap Method.names)

/-- The method of a route that a request names. -/
def method? (r : Route) (name : String) : Option Method :=
  r.methods.find? fun m => m.names.contains name

/-- Whether the route needs a token when callers are authenticated. -/
def isProtected : Route → Bool
  | root | health => false
  | collection _ | fetch _ | entity .. | live _ => true

end Route

end CampaignFetch.Http

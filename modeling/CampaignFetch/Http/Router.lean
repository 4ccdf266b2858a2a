import CampaignFetch.Fetch.Engine
import CampaignFetch.Http.Authentication
import CampaignFetch.Http.Rejection
import CampaignFetch.Http.Route
import CampaignFetch.Service.AdGroups
import CampaignFetch.Service.Campaigns

/-!
# The router

`Api.respond` answers a request with a program, which asks the database what it has to and then
gives the response. What is checked first is answered first: whether the path leads anywhere, who
the caller is, the method, the parameters of the path, the query or the body, and then what the
service or the engine says.

Every response tells that scripts of all origins may read it. A request for the options of a path is
answered before anything else, and alone without an id for tracing.
-/

namespace CampaignFetch.Http

/-- What the router needs to know. -/
structure Api where
  fetch : FetchSettings
  security : SecuritySettings
  /-- The time, in seconds since the beginning of 1970. -/
  now : Int

/-! ## Answers -/

/-- What is answered: a status and content. -/
structure Answer where
  status : Nat
  content : Content

namespace Answer

/-- An answer without content. -/
def bare (status : Nat) : Answer := ⟨status, .empty⟩

/-- The answer that gives data. -/
def data (status : Nat) (j : Json) : Answer :=
  ⟨status, .document (.object [("success", .bool true), ("data", j)])⟩

/-- The answer that tells a problem. -/
def ofProblem (p : Problem) : Answer := ⟨p.status, .document p.toJson⟩

/-- The answer that rejects a part of the request. -/
def ofRejection (r : Rejection) : Answer := ⟨r.status, .text r.message⟩

end Answer

/-- What a route does: it gives an answer, or fails with another one. -/
abbrev Handler (α : Type) := ExceptT Answer Program α

namespace Handler

variable {α : Type}

/-- A part of the request. -/
def part (p : Except Rejection α) : Handler α := ExceptT.mk (.done (p.mapError .ofRejection))

/-- What a service does. -/
def service (s : Service α) : Handler α := ExceptT.adapt (fun f => .ofProblem (.ofService f)) s

/-- What the engine does with a request that may have been refused. -/
def fetch (request : Except FetchFault CampaignFetch.Request)
    (run : CampaignFetch.Request → ExceptT FetchFault Program α) : Handler α :=
  ExceptT.adapt (fun f => .ofProblem (.ofFetch f)) (do run (← ExceptT.mk (.done request)))

/-- The answer of a handler in either case. -/
def answer (h : Handler Answer) : Program Answer := do
  match ← h.run with
  | .ok a => return a
  | .error a => return a

end Handler

/-! ## Handlers -/

/-- What the root tells about the application. -/
def rootDocument : Json :=
  .object [("name", .string applicationName), ("version", .string applicationVersion),
    ("endpoints", .object [("campaign", .string "/api/v1/campaign"),
      ("ad_group", .string "/api/v1/ad_group"), ("health", .string "/health")])]

/-- Tells whether the database answers. -/
def health : Program Answer := do
  let report (status database : String) : Json :=
    .object [("status", .string status), ("database", .string database)]
  match ← Access.check.run with
  | .ok () => return .data 200 (report "ok" "ok")
  | .error _ => return ⟨503, .document (.object [("success", .bool false),
      ("data", report "degraded" "unavailable")])⟩

/-- Handles requests for campaigns as a whole. -/
def createCampaign (r : Request) : Handler Answer := do
  let new ← .part (readBody NewCampaign.read r)
  return .data 201 (← Handler.service (Campaigns.create new)).toJson

/-- Handles requests for ad groups as a whole. -/
def createAdGroup (r : Request) : Handler Answer := do
  let new ← .part (readBody NewAdGroup.read r)
  return .data 201 (← Handler.service (AdGroups.create new)).toJson

def handleCampaign (method : Method) (id : Int) (r : Request) : Handler Answer := do
  let campaign ← match method with
    | .put => do
      let change ← .part (readBody CampaignUpdate.read r)
      .service (Campaigns.update id change)
    | .delete => .service (Campaigns.delete id)
    | .get | .post => .service (Campaigns.get id)
  return .data 200 campaign.toJson

def handleAdGroup (method : Method) (id : Int) (r : Request) : Handler Answer := do
  let group ← match method with
    | .put => do
      let change ← .part (readBody AdGroupUpdate.read r)
      .service (AdGroups.update id change)
    | .delete => .service (AdGroups.delete id)
    | .get | .post => .service (AdGroups.get id)
  return .data 200 group.toJson

def handleFetch (settings : FetchSettings) (kind : Kind) (r : Request) : Handler Answer := do
  let value ← .part (readQuery r.target.query)
  let request := CampaignFetch.Request.ofTexts? (value "fields") (value "filters") (value "limit")
  let documents ← .fetch request (fetchDocuments settings kind)
  return .data 200 (.array documents)

/-- Handles requests for the live ad groups of a campaign name. -/
def handleLive (segment : String) : Handler Answer := do
  let ksName ← .part (readName "ks_name" segment)
  let groups ← .service (AdGroups.live ksName)
  return .data 200 (.array (groups.map AdGroup.toJson))

namespace Api

/-- Handles a request for a route with one of its methods. -/
def handle (api : Api) (route : Route) (method : Method) (r : Request) : Program Answer :=
  match route with
  | .root => .done (.data 200 rootDocument)
  | .health => health
  | .collection .campaign => (createCampaign r).answer
  | .collection .adGroup => (createAdGroup r).answer
  | .fetch kind => (handleFetch api.fetch kind r).answer
  | .entity .campaign id => Handler.answer (do handleCampaign method (← .part (readId id)) r)
  | .entity .adGroup id => Handler.answer (do handleAdGroup method (← .part (readId id)) r)
  | .live segment => (handleLive segment).answer

/-! ## Responses -/

/-- The id by which a request is traced: its own, if it is plain and not blank. -/
def traceId (r : Request) : TraceId :=
  match (r.header? "x-request-id").filter fun id => isPlain id && !Text.isBlankText id with
  | some id => .given id
  | none => .generated

/-- Whether the caller may use a route, or the problem to tell. -/
def checkCaller (api : Api) (route : Route) (r : Request) : Except Problem Unit :=
  if route.isProtected && api.security.enableAuth then
    (authenticate api.security api.now r).map fun _ => ()
  else .ok ()

/-- The answer of a route to a request. -/
def answer (api : Api) (route : Route) (r : Request) : Program Answer :=
  match api.checkCaller route r with
  | .error problem => .done (.ofProblem problem)
  | .ok () =>
    match route.method? r.method with
    | none => .done (.bare 405)
    | some method => api.handle route method r

/-- The response to a request for the options of a path. -/
def optionsResponse (route : Option Route) : Response :=
  { status := 200, allow := route.map Route.allow, contentType := none, traceId := none
    allowOrigin := "*", content := .empty }

/-- The response with an answer. Who asks for the head alone gets no content. -/
def response (r : Request) (route : Option Route) (a : Answer) : Response where
  status := a.status
  allow := (route.filter fun route => (route.method? r.method).isNone).map Route.allow
  contentType := a.content.type
  traceId := some (traceId r)
  allowOrigin := "*"
  content := if r.method = "HEAD" then .empty else a.content

def respond (api : Api) (r : Request) : Program Response :=
  let route := Route.ofPath? r.target.path
  if r.method = "OPTIONS" then .done (optionsResponse route)
  else do
    let a ← match route with
      | none => .done (.bare 404)
      | some route => api.answer route r
    return response r route a

section

variable {api : Api} {r : Request} {route : Route}

theorem respond_options (h : r.method = "OPTIONS") :
    api.respond r = .done (optionsResponse (Route.ofPath? r.target.path)) :=
  if_pos h

theorem respond_unknown (h : r.method ≠ "OPTIONS") (hRoute : Route.ofPath? r.target.path = none) :
    api.respond r = .done (response r none (.bare 404)) := by
  rw [respond, if_neg h, hRoute]
  rfl

theorem respond_route (h : r.method ≠ "OPTIONS")
    (hRoute : Route.ofPath? r.target.path = some route) :
    api.respond r = (api.answer route r).bind fun a => .done (response r (some route) a) := by
  rw [respond, if_neg h, hRoute]
  rfl

end

end Api

end CampaignFetch.Http

import CampaignFetch.Cli.Ending
import CampaignFetch.Http.Router
import CampaignFetch.Proofs.ProgramRuns
import Mathlib.Data.List.Basic

/-!
# The gate before the database

When callers are authenticated, a request without a valid token reaches neither the tables nor the
join, and what it is told is decided before any of them is asked. The one question that is open to
all is whether the database answers.

* `Api.respond_of_not_shows`: without a valid token the response is already there, or the route is
  the health check.
* `Api.respond_unauthorized`: with a secret, whoever is rejected is unauthorized.
* `authentication_gate`: the gate, for all requests, databases and stores.
-/

namespace CampaignFetch.Http

/-! ## Tokens of requests -/

/-- The request shows a token that is valid: the first value of its authorization header is the
word and the token. -/
def Request.ShowsToken (security : SecuritySettings) (now : Int) (r : Request) : Prop :=
  ∃ token claims, r.header? "authorization" = some (bearer ++ token) ∧
    Text.isBlankText token = false ∧ Token.validate security.secret now token = .ok claims

theorem eq_append_of_afterFront? {front s rest : String} (h : afterFront? front s = some rest) :
    s = front ++ rest := by
  unfold afterFront? at h
  split at h
  · rename_i hPrefix
    obtain ⟨tail, hTail⟩ := List.isPrefixOf_iff_prefix.mp hPrefix
    cases h
    apply String.toList_inj.mp
    rw [String.toList_append, String.toList_ofList, ← hTail, ← String.length_toList, List.drop_left]
  · cases h

theorem Request.header?_of_token {r : Request} {token : String} (h : r.token = .ok token) :
    r.header? "authorization" = some (bearer ++ token) ∧ Text.isBlankText token = false := by
  unfold Request.token at h
  cases hHeader : r.header? "authorization" with
  | none => simp [hHeader] at h
  | some value =>
    simp only [hHeader] at h
    split at h
    · cases h
    · cases hFront : afterFront? bearer value with
      | none => simp [hFront] at h
      | some rest =>
        simp only [hFront] at h
        split at h
        · cases h
        · rename_i hBlank
          cases h
          exact ⟨congrArg some (eq_append_of_afterFront? hFront), by simpa using hBlank⟩

theorem Request.unauthorized_of_token {r : Request} {problem : Problem}
    (h : r.token = .error problem) : ∃ message, problem = .unauthorized message := by
  unfold Request.token at h
  cases hHeader : r.header? "authorization" with
  | none =>
    simp only [hHeader, Except.error.injEq] at h
    exact ⟨_, h.symm⟩
  | some value =>
    simp only [hHeader] at h
    split at h
    · cases h
      exact ⟨_, rfl⟩
    · cases hFront : afterFront? bearer value with
      | none =>
        simp only [hFront, Except.error.injEq] at h
        exact ⟨_, h.symm⟩
      | some rest =>
        simp only [hFront] at h
        split at h
        · cases h
          exact ⟨_, rfl⟩
        · cases h

theorem Request.showsToken_of_authenticate {security : SecuritySettings} {now : Int} {r : Request}
    {claims : Claims} (h : authenticate security now r = .ok claims) :
    r.ShowsToken security now := by
  unfold authenticate at h
  cases hToken : r.token with
  | error problem => simp [hToken, bind, Except.bind] at h
  | ok token =>
    obtain ⟨hHeader, hBlank⟩ := Request.header?_of_token hToken
    cases hValid : Token.validate security.secret now token with
    | error fault => simp [hToken, hValid, bind, Except.bind, Except.mapError] at h
    | ok claims => exact ⟨token, claims, hHeader, hBlank, hValid⟩

/-! ## The path of the health check -/

theorem Route.ofSegments?_ne_health (segments : List String) :
    Route.ofSegments? segments ≠ some .health := by
  intro h
  unfold Route.ofSegments? at h
  split at h
  · rename_i table
    cases hKind : Route.kind? table <;> simp [hKind] at h
  · rename_i table last
    cases hKind : Route.kind? table with
    | none => simp [hKind] at h
    | some kind =>
      simp only [hKind, Option.bind_eq_bind, Option.bind_some] at h
      split at h
      · cases h
      · split at h <;> cases h
  · split at h <;> cases h
  · cases h

theorem Route.path_of_health {path : String} (h : Route.ofPath? path = some .health) :
    path = "/health" := by
  unfold Route.ofPath? at h
  split at h
  · cases h
  · rename_i hPieces
    have hWhole := Text.intercalate_pieces '/' path.toList
    have hCharacters := congrArg (List.map String.toList) hPieces
    simp only [List.map_map, String.toList_comp_ofList, List.map_id] at hCharacters
    rw [hCharacters] at hWhole
    exact String.toList_inj.mp (hWhole.symm.trans (by decide))
  · exact absurd h (Route.ofSegments?_ne_health _)
  · cases h

/-! ## Rejections -/

namespace Api

variable {api : Api} {r : Request} {route : Route}

/-- Without a valid token a protected route has a problem with the caller. -/
theorem exists_checkCaller_eq_error (hAuth : api.security.enableAuth = true)
    (hProtected : route.isProtected = true) (hNot : ¬ r.ShowsToken api.security api.now) :
    ∃ problem, api.checkCaller route r = .error problem := by
  unfold checkCaller
  rw [hProtected, hAuth]
  cases hCaller : authenticate api.security api.now r with
  | error problem => exact ⟨problem, rfl⟩
  | ok claims => exact absurd (Request.showsToken_of_authenticate hCaller) hNot

/-- Where there is a secret, the problem with a caller is that of the caller. -/
theorem checkCaller_unauthorized {problem : Problem}
    (hSecret : api.security.enableAuth = true → api.security.secret.isEmpty = false)
    (h : api.checkCaller route r = .error problem) :
    ∃ message, problem = .unauthorized message := by
  unfold checkCaller at h
  split at h
  · rename_i hGuard
    have hEmpty := hSecret (Bool.and_eq_true_iff.mp hGuard).2
    unfold authenticate at h
    cases hToken : r.token with
    | error cause =>
      simp only [hToken, bind, Except.bind, Except.map, Except.error.injEq] at h
      obtain ⟨message, hMessage⟩ := Request.unauthorized_of_token hToken
      exact ⟨message, h ▸ hMessage⟩
    | ok token =>
      simp only [hToken, bind, Except.bind, Token.validate, hEmpty, Bool.false_eq_true,
        if_false] at h
      cases hCheck : Token.check api.security.secret api.now (Text.encode token) with
      | error refusal =>
        simp only [hCheck, Except.mapError, Except.map, Except.error.injEq] at h
        exact ⟨_, h.symm⟩
      | ok claims => simp [hCheck, Except.mapError, Except.map] at h
  · cases h

theorem exists_answer_root (api : Api) (r : Request) :
    ∃ a, api.answer .root r = .done a := by
  unfold answer
  cases hMethod : Route.method? .root r.method with
  | none => exact ⟨_, by simp only [checkCaller, Route.isProtected, Bool.false_and]; rfl⟩
  | some method => exact ⟨_, by simp only [checkCaller, Route.isProtected, Bool.false_and]; rfl⟩

/-- Without a valid token the response is there before anything is asked, unless the route is the
health check. -/
theorem respond_of_not_shows (hAuth : api.security.enableAuth = true)
    (hNot : ¬ r.ShowsToken api.security api.now) :
    (∃ response, api.respond r = .done response) ∨
      Route.ofPath? r.target.path = some .health := by
  by_cases hOptions : r.method = "OPTIONS"
  · exact .inl ⟨_, respond_options hOptions⟩
  · cases hRoute : Route.ofPath? r.target.path with
    | none => exact .inl ⟨_, respond_unknown hOptions hRoute⟩
    | some route =>
      have hAnswer : (∃ a, api.answer route r = .done a) ∨ route = .health := by
        by_cases hProtected : route.isProtected = true
        · obtain ⟨problem, hProblem⟩ := exists_checkCaller_eq_error hAuth hProtected hNot
          exact .inl ⟨.ofProblem problem, by simp only [answer, hProblem]⟩
        · cases route with
          | root => exact .inl (exists_answer_root api r)
          | health => exact .inr rfl
          | _ => exact absurd rfl hProtected
      rcases hAnswer with ⟨a, ha⟩ | rfl
      · exact .inl ⟨_, (respond_route hOptions hRoute).trans (congrArg (Program.bind · _) ha)⟩
      · exact .inr rfl

/-! ## The health check -/

/-- The question whether the database answers. -/
def ping : Question := .statement ⟨"SELECT 1", []⟩

variable {σ : Type}

theorem asked_health (b : Backend σ) (state : σ) : health.asked b state = [ping] := by
  have hCheck : Access.check.run =
      .execute ⟨"SELECT 1", []⟩ fun reply => .done (reply.map fun _ => ()) := by
    refine congrArg (Program.execute _) (funext fun reply => ?_)
    cases reply <;> rfl
  unfold health
  rw [hCheck]
  refine (Program.asked_bind b _ _ state).trans ?_
  split <;> rfl

/-- On the route of the health check nothing else is asked. -/
theorem asked_respond_health (hRoute : Route.ofPath? r.target.path = some .health) (b : Backend σ)
    (state : σ) : ∀ x ∈ (api.respond r).asked b state, x = ping := by
  intro x hx
  have hAnswer : (api.answer .health r).asked b state = [] ∨
      (api.answer .health r).asked b state = [ping] := by
    have hCaller : api.checkCaller .health r = .ok () := rfl
    unfold answer
    rw [hCaller]
    cases hMethod : Route.method? .health r.method with
    | none => exact .inl rfl
    | some method => exact .inr (asked_health b state)
  by_cases hOptions : r.method = "OPTIONS"
  · rw [respond_options hOptions] at hx
    cases hx
  · have hx : x ∈ (api.answer .health r).asked b state := by
      rw [respond_route hOptions hRoute, Program.asked_bind] at hx
      simpa [Program.asked] using hx
    rcases hAnswer with hNone | hPing
    · rw [hNone] at hx
      cases hx
    · rw [hPing] at hx
      exact List.mem_singleton.mp hx

end Api

/-! ## What is never told -/

/-- The content is a document with this message. -/
def Content.Tells (c : Content) (message : String) : Prop :=
  ∃ entries, c = .document (.object entries) ∧ ("message", .string message) ∈ entries

/-- The answer does not blame the server for callers that it cannot authenticate. -/
def Answer.Fair (a : Answer) : Prop :=
  a.status = 500 → ¬ a.content.Tells "Authentication is misconfigured"

namespace Answer

theorem fair_data (status : Nat) (j : Json) : (Answer.data status j).Fair := by
  rintro - ⟨entries, hEntries, hMem⟩
  cases hEntries
  simp at hMem

theorem fair_ofRejection (r : Rejection) : (Answer.ofRejection r).Fair := by
  rintro - ⟨entries, hEntries, -⟩
  cases hEntries

theorem fair_of_status {a : Answer} (h : a.status ≠ 500) : a.Fair := fun hStatus => absurd hStatus h

theorem fair_ofInternal {message : String} (h : message ≠ "Authentication is misconfigured") :
    (Answer.ofProblem (.internal message)).Fair := by
  rintro - ⟨entries, hEntries, hMem⟩
  cases hEntries
  simp [Problem.message, Problem.fieldErrors, h.symm] at hMem

theorem fair_ofDatabase (f : DatabaseFault) : (Answer.ofProblem (.ofDatabase f)).Fair := by
  cases f with
  | configMissing | poolTimedOut | migration => exact fair_of_status (Nat.ne_of_beq_eq_false rfl)
  | query | server | rowNotFound | connection | columnDecode => exact fair_ofInternal (by decide)

theorem fair_ofService (f : ServiceFault) : (Answer.ofProblem (.ofService f)).Fair := by
  cases f with
  | database cause => exact fair_ofDatabase cause
  | notFound | missingReference | invalidField => exact fair_of_status (Nat.ne_of_beq_eq_false rfl)

theorem fair_ofFetch (f : FetchFault) : (Answer.ofProblem (.ofFetch f)).Fair := by
  cases f with
  | execution cause => exact fair_ofInternal (by decide)
  | unsupportedOperator | invalidFilters | invalidLimit =>
    exact fair_of_status (Nat.ne_of_beq_eq_false rfl)

end Answer

namespace Handler

variable {α : Type}

theorem ends_part (p : Except Rejection α) :
    Program.Ends Answer.Fair (fun _ => True) (Handler.part p) := by
  cases p with
  | ok a => trivial
  | error rejection => exact Answer.fair_ofRejection rejection

theorem ends_service (s : Service α) :
    Program.Ends Answer.Fair (fun _ => True) (Handler.service s) :=
  Program.ends_adapt Answer.fair_ofService s

theorem ends_fetch (request : Except FetchFault CampaignFetch.Request)
    (run : CampaignFetch.Request → ExceptT FetchFault Program α) :
    Program.Ends Answer.Fair (fun _ => True) (Handler.fetch request run) :=
  Program.ends_adapt Answer.fair_ofFetch _

theorem gives_answer {h : Handler Answer} (hEnds : Program.Ends Answer.Fair Answer.Fair h) :
    h.answer.Gives Answer.Fair := by
  refine Program.Gives.bind (hEnds.imp fun x hx => ?_)
  cases x <;> exact hx

end Handler

section

open Program

theorem ends_createCampaign (r : Request) : Ends Answer.Fair Answer.Fair (createCampaign r) :=
  (Handler.ends_part _).bind fun _ _ =>
    (Handler.ends_service _).bind fun _ _ => ends_pure (Answer.fair_data _ _)

theorem ends_createAdGroup (r : Request) : Ends Answer.Fair Answer.Fair (createAdGroup r) :=
  (Handler.ends_part _).bind fun _ _ =>
    (Handler.ends_service _).bind fun _ _ => ends_pure (Answer.fair_data _ _)

theorem ends_handleCampaign (method : Method) (id : Int) (r : Request) :
    Ends Answer.Fair Answer.Fair (handleCampaign method id r) := by
  have hEntity : ∀ s : Service Campaign, Ends Answer.Fair Answer.Fair (do
      let campaign ← Handler.service s
      pure (Answer.data 200 campaign.toJson)) :=
    fun s => (Handler.ends_service s).bind fun _ _ => ends_pure (Answer.fair_data _ _)
  cases method with
  | put => exact (Handler.ends_part _).bind fun change _ => hEntity (Campaigns.update id change)
  | delete => exact hEntity (Campaigns.delete id)
  | get | post => exact hEntity (Campaigns.get id)

theorem ends_handleAdGroup (method : Method) (id : Int) (r : Request) :
    Ends Answer.Fair Answer.Fair (handleAdGroup method id r) := by
  have hEntity : ∀ s : Service AdGroup, Ends Answer.Fair Answer.Fair (do
      let group ← Handler.service s
      pure (Answer.data 200 group.toJson)) :=
    fun s => (Handler.ends_service s).bind fun _ _ => ends_pure (Answer.fair_data _ _)
  cases method with
  | put => exact (Handler.ends_part _).bind fun change _ => hEntity (AdGroups.update id change)
  | delete => exact hEntity (AdGroups.delete id)
  | get | post => exact hEntity (AdGroups.get id)

theorem ends_handleFetch (s : FetchSettings) (kind : Kind) (r : Request) :
    Ends Answer.Fair Answer.Fair (handleFetch s kind r) :=
  (Handler.ends_part _).bind fun _ _ =>
    (Handler.ends_fetch _ _).bind fun _ _ => ends_pure (Answer.fair_data _ _)

theorem ends_handleLive (segment : String) :
    Ends Answer.Fair Answer.Fair (handleLive segment) :=
  (Handler.ends_part _).bind fun _ _ =>
    (Handler.ends_service _).bind fun _ _ => ends_pure (Answer.fair_data _ _)

theorem gives_health : health.Gives Answer.Fair := by
  refine Gives.bind (gives_of_forall (fun x => ?_) _)
  cases x with
  | ok u => exact Answer.fair_data _ _
  | error fault => exact Answer.fair_of_status (Nat.ne_of_beq_eq_false rfl)

namespace Api

variable {api : Api} {r : Request}

/-- No route gives an unfair answer. -/
theorem gives_handle (api : Api) (route : Route) (method : Method) (r : Request) :
    (api.handle route method r).Gives Answer.Fair := by
  cases route with
  | root => exact Answer.fair_data _ _
  | health => exact gives_health
  | collection kind =>
    cases kind with
    | campaign => exact Handler.gives_answer (ends_createCampaign r)
    | adGroup => exact Handler.gives_answer (ends_createAdGroup r)
  | fetch kind => exact Handler.gives_answer (ends_handleFetch api.fetch kind r)
  | entity kind id =>
    cases kind with
    | campaign =>
      exact Handler.gives_answer
        ((Handler.ends_part _).bind fun id _ => ends_handleCampaign method id r)
    | adGroup =>
      exact Handler.gives_answer
        ((Handler.ends_part _).bind fun id _ => ends_handleAdGroup method id r)
  | live segment => exact Handler.gives_answer (ends_handleLive segment)

theorem gives_answer
    (hSecret : api.security.enableAuth = true → api.security.secret.isEmpty = false)
    (route : Route) : (api.answer route r).Gives Answer.Fair := by
  unfold answer
  cases hCaller : api.checkCaller route r with
  | error problem =>
    obtain ⟨message, rfl⟩ := checkCaller_unauthorized hSecret hCaller
    exact Answer.fair_of_status (Nat.ne_of_beq_eq_false rfl)
  | ok u =>
    cases route.method? r.method with
    | none => exact Answer.fair_of_status (Nat.ne_of_beq_eq_false rfl)
    | some method => exact gives_handle api route method r

theorem gives_respond
    (hSecret : api.security.enableAuth = true → api.security.secret.isEmpty = false) :
    (api.respond r).Gives fun response =>
      response.status = 500 → ¬ response.content.Tells "Authentication is misconfigured" := by
  have hResponse : ∀ (route : Option Route) (p : Program Answer), p.Gives Answer.Fair →
      (p.bind fun a => .done (response r route a)).Gives fun response =>
        response.status = 500 → ¬ response.content.Tells "Authentication is misconfigured" := by
    refine fun route p hp => Gives.bind (hp.imp fun a hFair => ?_)
    rintro hStatus ⟨entries, hEntries, hMem⟩
    simp only [response] at hEntries
    split at hEntries
    · cases hEntries
    · exact hFair hStatus ⟨entries, hEntries, hMem⟩
  by_cases hOptions : r.method = "OPTIONS"
  · rw [respond_options hOptions]
    rintro - ⟨entries, hEntries, -⟩
    cases hEntries
  · cases hRoute : Route.ofPath? r.target.path with
    | none =>
      rw [respond_unknown hOptions hRoute]
      exact hResponse none (.done (.bare 404)) (Answer.fair_of_status (Nat.ne_of_beq_eq_false rfl))
    | some route =>
      rw [respond_route hOptions hRoute]
      exact hResponse (some route) _ (gives_answer hSecret route)

/-- Whoever shows no valid token on a protected route is unauthorized. -/
theorem respond_unauthorized (hAuth : api.security.enableAuth = true)
    (hSecret : api.security.secret.isEmpty = false) {route : Route}
    (hRoute : Route.ofPath? r.target.path = some route) (hProtected : route.isProtected = true)
    (hOptions : r.method ≠ "OPTIONS") (hNot : ¬ r.ShowsToken api.security api.now) :
    ∃ response, api.respond r = .done response ∧ response.status = 401 := by
  obtain ⟨problem, hProblem⟩ := exists_checkCaller_eq_error hAuth hProtected hNot
  obtain ⟨message, rfl⟩ := checkCaller_unauthorized (fun _ => hSecret) hProblem
  refine ⟨response r (some route) (.ofProblem (.unauthorized message)), ?_, rfl⟩
  rw [respond_route hOptions hRoute]
  simp only [answer, hProblem]
  rfl

end Api

end

/-! ## The gate -/

theorem lacksSecret_of_serverPool {s : Cli.Surroundings}
    (h : s.serverPool ≠ .error .secretMissing) : s.settings.lacksSecret = false := by
  cases hLacks : s.settings.lacksSecret with
  | false => rfl
  | true =>
    refine absurd ?_ h
    simp only [Cli.Surroundings.serverPool, hLacks, if_true]
    rfl

/-- When callers are authenticated, whatever is asked for a request is the health check's question
or the request shows a valid token; a request without one that is no health check has the same
response whatever answers. A server whose settings passed the check before it listens never calls
itself misconfigured, and whoever shows no valid token on a protected route is unauthorized. -/
theorem authentication_gate (api : Api) (r : Request) :
    (api.security.enableAuth = true →
      ∀ (σ : Type) (b : Backend σ) (state : σ), ∀ x ∈ (api.respond r).asked b state,
        (x = .statement ⟨"SELECT 1", []⟩ ∧ r.target.path = "/health") ∨
          r.ShowsToken api.security api.now) ∧
      (api.security.enableAuth = true → ¬ r.ShowsToken api.security api.now →
        r.target.path ≠ "/health" → ∃ response, ∀ (σ : Type) (b : Backend σ) (state : σ),
          ((api.respond r).run b state).1 = response) ∧
      ∀ s : Cli.Surroundings, s.serverPool ≠ .error .secretMissing →
        api.security = s.settings.security →
        ∀ (σ : Type) (b : Backend σ) (state : σ),
          (((api.respond r).run b state).1.status = 500 →
            ¬ ((api.respond r).run b state).1.content.Tells "Authentication is misconfigured") ∧
          (api.security.enableAuth = true → r.method ≠ "OPTIONS" →
            ¬ r.ShowsToken api.security api.now →
            ∀ route, Route.ofPath? r.target.path = some route → route.isProtected = true →
              ((api.respond r).run b state).1.status = 401) := by
  refine ⟨?_, ?_, ?_⟩
  · intro hAuth σ b state x hx
    by_cases hShows : r.ShowsToken api.security api.now
    · exact .inr hShows
    -- without a valid token the program is already done, except for the health check
    rcases Api.respond_of_not_shows hAuth hShows with ⟨response, hDone⟩ | hHealth
    · rw [hDone] at hx
      cases hx
    · exact .inl ⟨Api.asked_respond_health hHealth b state x hx, Route.path_of_health hHealth⟩
  · intro hAuth hNot hPath
    rcases Api.respond_of_not_shows hAuth hNot with ⟨response, hDone⟩ | hHealth
    · exact ⟨response, fun σ b state => by rw [hDone, Program.run_done]⟩
    · exact absurd (Route.path_of_health hHealth) hPath
  · intro s hPool hSecurity σ b state
    have hLacks := lacksSecret_of_serverPool hPool
    have hSecret : api.security.enableAuth = true → api.security.secret.isEmpty = false := by
      intro hAuth
      simpa [AppSettings.lacksSecret, ← hSecurity, hAuth] using hLacks
    refine ⟨(Api.gives_respond hSecret).run b state, ?_⟩
    intro hAuth hOptions hNot route hRoute hProtected
    obtain ⟨response, hDone, hStatus⟩ :=
      Api.respond_unauthorized hAuth (hSecret hAuth) hRoute hProtected hOptions hNot
    rw [hDone, Program.run_done]
    exact hStatus

/-- The surroundings of a server in production with a secret. -/
def guardedSurroundings : Cli.Surroundings where
  environment name :=
    if name = "APP_ENV" then some "production"
    else if name = "JWT_SECRET" then some "s3cret" else none
  now := 1705311000
  server := ⟨true, .ok (), .ok ()⟩

/-- A server in production asks a database that is down for nothing but the health check when no
token is shown, and the campaign behind the gate stays unknown. -/
theorem authentication_gate_closed :
    (∀ x ∈ (Api.respond ⟨.standard, ⟨true, "s3cret", 4⟩, 1705311000⟩
        ⟨"GET", ⟨"/health", none⟩, [], ""⟩).asked .scripted (.start .down),
      x = .statement ⟨"SELECT 1", []⟩) ∧
      ∃ response, response.status = 401 ∧ ∀ (σ : Type) (b : Backend σ) (state : σ),
        ((Api.respond ⟨.standard, ⟨true, "s3cret", 4⟩, 1705311000⟩
          ⟨"GET", ⟨"/api/v1/campaign/7", none⟩, [], ""⟩).run b state).1 = response := by
  have hNot : ∀ path : String,
      ¬ (⟨"GET", ⟨path, none⟩, [], ""⟩ : Request).ShowsToken ⟨true, "s3cret", 4⟩ 1705311000 := by
    rintro path ⟨token, claims, hHeader, -⟩
    cases hHeader
  have hPool : guardedSurroundings.serverPool ≠ .error .secretMissing := by
    have hStarts : guardedSurroundings.serverPool = .ok ⟨50, 5⟩ := by rfl
    rw [hStarts]
    intro h
    cases h
  constructor
  · intro x hx
    rcases (authentication_gate _ _).1 rfl _ _ _ x hx with ⟨hPing, -⟩ | hShows
    · exact hPing
    · exact absurd hShows (hNot "/health")
  · obtain ⟨-, hSame, hStarted⟩ :=
      authentication_gate ⟨.standard, ⟨true, "s3cret", 4⟩, 1705311000⟩
        ⟨"GET", ⟨"/api/v1/campaign/7", none⟩, [], ""⟩
    obtain ⟨response, hResponse⟩ := hSame rfl (hNot _) (by decide)
    have hStatus := (hStarted guardedSurroundings hPool (by decide +kernel) _ .scripted
      (.start .down)).2 rfl (by decide) (hNot _) (.entity .campaign "7") (by decide +kernel) rfl
    rw [hResponse] at hStatus
    exact ⟨response, hStatus, hResponse⟩

end CampaignFetch.Http

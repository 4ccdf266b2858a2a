import CampaignFetch.Cli.Ending
import CampaignFetch.Http.Router
import CampaignFetch.Proofs.CommandLines
import CampaignFetch.Proofs.FetchPlans
import CampaignFetch.Proofs.LimitBound
import CampaignFetch.Proofs.QueryStrings

/-!
# The two front ends

A fetch can be asked for in a query and by a command. Both make the same request of the same texts,
and with it they give the same data or both fail, and ask the database the same.

* `Request.ofTexts?_eq_ofArguments?`: the same request, or the same fault.
* `Api.run_respond`, `run_operate`: both are one fetch, of which they make a response or an ending.
* `failsOn_fetchDocuments`: a command that cannot connect fails like a fetch without connection.
* `Request.written_asks`, `asks_fetchArguments`, `ofVariables_fetch`: whatever is asked for and
  whatever the settings are, there are such a query, command and environment.
* `front_ends_agree`: what the response and the command tell, for all databases.
-/

namespace CampaignFetch

/-! ## Limits -/

/-- The limit of a command and the text of one in a query say the same: both are left out, or the
text is the number in digits, with or without blank characters around it. -/
inductive LimitText : Option Int → Option String → Prop
  | none : LimitText none none
  | some {n : Int} {front back : String} (hFits : Text.fitsInt64 n = true)
      (hFront : Text.isBlankText front = true) (hBack : Text.isBlankText back = true) :
      LimitText (some n) (some (front ++ Text.ofInt n ++ back))

namespace Request

variable {limit : Option Int} {limitText : Option String}

theorem readLimit_of_limitText (h : LimitText limit limitText) :
    readLimit limitText = .ok (limit.getD defaultLimit) := by
  cases h with
  | none => rfl
  | @some n front back hFits hFront hBack =>
    have hTrim : Text.trim (front ++ Text.ofInt n ++ back) = Text.ofInt n :=
      Text.trim_surrounded hFront hBack fun c => Text.not_isBlank_of_mem_ofInt
    simp only [readLimit, Option.map_some, hTrim, String.isEmpty_iff, Text.ofInt_ne_empty,
      if_false, Text.int64?_ofInt hFits, Option.getD_some]

theorem ofTexts?_eq_ofArguments? (h : LimitText limit limitText)
    (fields filters : Option String) :
    ofTexts? fields filters limitText = ofArguments? fields filters limit := by
  simp only [ofTexts?, readLimit_of_limitText h]
  rfl

end Request

/-! ## The fetch behind both -/

section

variable {α β ε ε' σ : Type} {b : Backend σ} {state : σ}

theorem Program.run_adapt (f : ε → ε') (p : ExceptT ε Program α) :
    (ExceptT.adapt f p).run.run b state =
      ((p.run.run b state).1.mapError f, (p.run.run b state).2) :=
  run_bind b p.run (fun x => .done (x.mapError f)) state

/-- The program fails and leaves everything as it is. -/
def FailsOn (b : Backend σ) (state : σ) (p : ExceptT ε Program α) : Prop :=
  ∃ e, p.run.run b state = (.error e, state)

theorem FailsOn.bind {p : ExceptT ε Program α} (h : FailsOn b state p)
    (f : α → ExceptT ε Program β) : FailsOn b state (p >>= f) := by
  obtain ⟨e, he⟩ := h
  refine ⟨e, (Program.run_bind b p.run _ state).trans ?_⟩
  rw [he]
  rfl

end

/-- What a fetch does with a request that may have been refused. -/
def fetchRequested (s : FetchSettings) (kind : Kind) (request : Except FetchFault Request) :
    ExceptT FetchFault Program (List Json) := do
  fetchDocuments s kind (← ExceptT.mk (.done request))

section

variable {script : Script} (hScript : script.server.connection ≠ .ok ())

include hScript

theorem failsOn_fetchGroups (P R : Type) [Entity P] [Entity R] (s : FetchSettings) (r : Request) :
    FailsOn .scripted (.start script) (fetchGroups P R s r) := by
  unfold fetchGroups
  cases s.plan (Entity.kind P) r with
  | error fault => exact ⟨fault, rfl⟩
  | ok plan =>
    cases script with
    | replies list => exact absurd rfl hScript
    | down => exact ⟨_, rfl⟩
    | timeout => exact ⟨_, rfl⟩

theorem failsOn_fetchDocuments (s : FetchSettings) (kind : Kind) (r : Request) :
    FailsOn .scripted (.start script) (fetchDocuments s kind r) := by
  cases kind with
  | campaign => exact ((failsOn_fetchGroups hScript _ _ s r).bind _).bind _
  | adGroup => exact ((failsOn_fetchGroups hScript _ _ s r).bind _).bind _

theorem failsOn_fetchRequested (s : FetchSettings) (kind : Kind)
    (request : Except FetchFault Request) :
    FailsOn .scripted (.start script) (fetchRequested s kind request) := by
  cases request with
  | error fault => exact ⟨fault, rfl⟩
  | ok r => exact failsOn_fetchDocuments hScript s kind r

end

/-! ## The response -/

namespace Http

/-- The answer that a fetch is given. -/
def Answer.ofFetched : Except FetchFault (List Json) → Answer
  | .ok documents => .data 200 (.array documents)
  | .error fault => .ofProblem (.ofFetch fault)

/-- The request is for a fetch, with these texts as its parameters. -/
structure Request.Asks (r : Request) (kind : Kind) (fields filters limit : Option String) :
    Prop where
  method : r.method = "GET"
  path : Route.ofPath? r.target.path = some (.fetch kind)
  query : ∃ value, readQuery r.target.query = .ok value ∧
    value "fields" = fields ∧ value "filters" = filters ∧ value "limit" = limit

variable {σ : Type} {b : Backend σ} {state : σ}

theorem run_handleFetch {settings : FetchSettings} {kind : Kind} {r : Request}
    {value : String → Option String} (hQuery : readQuery r.target.query = .ok value) :
    (handleFetch settings kind r).answer.run b state =
      ((fetchRequested settings kind (CampaignFetch.Request.ofTexts? (value "fields")
        (value "filters") (value "limit"))).run.run b state).map Answer.ofFetched id := by
  have hHandler : handleFetch settings kind r = (do
      return .data 200 (.array (← ExceptT.adapt (fun f => .ofProblem (.ofFetch f))
        (fetchRequested settings kind (CampaignFetch.Request.ofTexts? (value "fields")
          (value "filters") (value "limit")))))) := by
    unfold handleFetch
    rw [hQuery]
    rfl
  rw [hHandler]
  refine (Program.run_bind b _ _ _).trans ?_
  rw [Program.run_map, Program.run_adapt]
  simp only [Prod.map]
  cases (Program.run b _ state).1 <;> rfl

/-- The response to who may ask is made of what the fetch gives. -/
theorem Api.run_respond {api : Api} {r : Request} {kind : Kind}
    {fields filters limit : Option String} (hAsks : r.Asks kind fields filters limit)
    (hCaller : api.checkCaller (.fetch kind) r = .ok ()) :
    (api.respond r).run b state =
      ((fetchRequested api.fetch kind
        (CampaignFetch.Request.ofTexts? fields filters limit)).run.run b state).map
        (fun fetched => response r (some (.fetch kind)) (.ofFetched fetched)) id := by
  obtain ⟨hMethod, hPath, value, hQuery, rfl, rfl, rfl⟩ := hAsks
  have hNotOptions : r.method ≠ "OPTIONS" := by
    rw [hMethod]
    decide
  have hGet : (Route.fetch kind).method? r.method = some .get := by
    rw [hMethod]
    rfl
  have hAnswer : api.answer (.fetch kind) r = (handleFetch api.fetch kind r).answer := by
    simp only [answer, hCaller, hGet]
    rfl
  rw [respond_route hNotOptions hPath]
  refine (Program.run_bind b _ _ _).trans ?_
  rw [hAnswer, run_handleFetch hQuery]
  rfl

end Http

/-! ## The command -/

namespace Cli

/-- How a fetch ends for who asked for it in JSON. -/
def Ending.ofFetched : Except FetchFault (List Json) → Ending
  | .ok documents => .reported .json (.fetched documents)
  | .error fault => .failed (.fetch fault)

/-- The arguments ask for a fetch, and for its report in JSON. -/
def Asks (args : List String) (kind : Kind) (fields filters : Option String)
    (limit : Option Int) : Prop :=
  ∃ i, Invocation.ofArguments args = .ok i ∧ i.format = .json ∧
    i.task = .fetch kind fields filters limit

/-- The program meets the scripted database, with room and time for a connection. -/
structure Surroundings.Meets (s : Surroundings) (script : Script) : Prop where
  server : s.server = script.server
  room : s.settings.database.maxConnections ≠ 0
  time : s.settings.database.connectionTimeout ≠ 0

variable {s : Surroundings} {args : List String} {kind : Kind} {fields filters : Option String}
  {limit : Option Int}

theorem Surroundings.Meets.connect {script : Script} (h : s.Meets script) :
    (∃ pool, s.server.connect s.settings.database = .ok pool) ∨
      ∃ fault, s.server.connect s.settings.database = .error fault ∧
        script.server.connection ≠ .ok () := by
  have hConnect : s.server.connect s.settings.database = (do
      script.server.connection
      return ⟨s.settings.database.maxConnections, s.settings.database.connectionTimeout⟩) := by
    rw [h.server]
    cases script <;> simp [Server.connect, Script.server, Server.unreachable, h.room, h.time]
  rw [hConnect]
  cases script.server.connection with
  | ok u => exact .inl ⟨_, rfl⟩
  | error fault => exact .inr ⟨fault, rfl, nofun⟩

/-- With a connection, the ending is made of what the fetch gives. -/
theorem run_operate {σ : Type} {b : Backend σ} {state : σ} {pool : Pool}
    (hAsks : Asks args kind fields filters limit)
    (hConnect : s.server.connect s.settings.database = .ok pool) :
    (operate s args).run b state =
      ((fetchRequested s.settings.fetch kind
        (Request.ofArguments? fields filters limit)).run.run b state).map Ending.ofFetched id := by
  obtain ⟨i, hArguments, hFormat, hTask⟩ := hAsks
  have hPerform : i.task.perform s = (do
      return .fetched (← ExceptT.adapt .fetch (fetchRequested s.settings.fetch kind
        (Request.ofArguments? fields filters limit)))) := by
    rw [hTask]
    simp only [Task.perform, Surroundings.connect, hConnect]
    cases Request.ofArguments? fields filters limit <;> rfl
  rw [operate, hArguments]
  refine (Program.run_bind b _ _ _).trans ?_
  rw [hPerform, Program.run_map, Program.run_adapt, hFormat]
  simp only [Prod.map]
  cases (Program.run b _ state).1 <;> rfl

/-- Without a connection nothing is asked, not even whether the request is refused. -/
theorem operate_of_connect_eq_error {fault : DatabaseFault}
    (hAsks : Asks args kind fields filters limit)
    (hConnect : s.server.connect s.settings.database = .error fault) :
    operate s args = .done (.failed (.database fault)) := by
  obtain ⟨i, hArguments, -, hTask⟩ := hAsks
  simp only [operate, hArguments, hTask, Task.perform, Surroundings.connect, hConnect]
  rfl

end Cli

/-! ## Agreement -/

/-- The document that gives data. -/
def dataDocument (data : Json) : Json := .object [("success", .bool true), ("data", data)]

/-- The ending is a report in JSON that gives the data. -/
def Cli.Ending.GivesData (e : Cli.Ending) (data : Json) : Prop :=
  ∃ report : Cli.Report, e = .reported .json report ∧ report.toJson = dataDocument data

/-- The response gives the data. -/
def Http.Response.GivesData (r : Http.Response) (data : Json) : Prop :=
  r.status = 200 ∧ r.content = .document (dataDocument data)

/-- A command and a response, each with the database that it leaves, tell the same: both give the
same data, which the command prints, or neither succeeds; and the same statements were sent. -/
structure Agree (ran : Cli.Ending × ScriptedDatabase)
    (responded : Http.Response × ScriptedDatabase) : Prop where
  data : ∀ data, ran.1.GivesData data ↔ responded.1.GivesData data
  success : (∃ data, ran.1.GivesData data) ↔ responded.1.status = 200
  exitCode : ∀ withCauses, (ran.1.outcome withCauses).exitCode = 0 ↔ responded.1.status = 200
  output : ∀ data, ran.1.GivesData data → ∀ withCauses,
    ran.1.outcome withCauses = ⟨0, Cli.Report.lines [(dataDocument data).sorted.pretty], ""⟩
  statements : ran.2.log = responded.2.log

theorem Problem.status_ofFetch (fault : FetchFault) : (ofFetch fault).status ≠ 200 := by
  cases fault <;> exact Nat.ne_of_beq_eq_false rfl

section

variable {r : Http.Request} {route : Option Http.Route} {db : ScriptedDatabase}

/-- A command and a response that both fail agree, whatever the reasons are. -/
theorem agree_of_failures (failure : Cli.Failure) (fault : FetchFault) :
    Agree (.failed failure, db) (Http.Api.response r route (.ofProblem (.ofFetch fault)), db) := by
  have hStatus := Problem.status_ofFetch fault
  have hNone : ∀ data, ¬ (Cli.Ending.failed failure).GivesData data := by
    rintro data ⟨report, hReport, -⟩
    cases hReport
  exact {
    data := fun data => iff_of_false (hNone data) fun h => hStatus h.1
    success := iff_of_false (fun ⟨data, h⟩ => hNone data h) hStatus
    exitCode := fun _ => iff_of_false Nat.one_ne_zero hStatus
    output := fun data h => absurd h (hNone data)
    statements := rfl }

theorem agree_of_fetched (hMethod : r.method = "GET") (fetched : Except FetchFault (List Json)) :
    Agree (.ofFetched fetched, db) (Http.Api.response r route (.ofFetched fetched), db) := by
  cases fetched with
  | error fault => exact agree_of_failures (.fetch fault) fault
  | ok documents =>
    have hContent : (Http.Api.response r route (.ofFetched (.ok documents))).content =
        .document (dataDocument (.array documents)) := by
      simp only [Http.Api.response, hMethod]
      rfl
    exact {
      data := by
        refine fun data => ⟨?_, fun h => ⟨_, rfl, ?_⟩⟩
        · rintro ⟨report, hReport, hData⟩
          cases hReport
          exact ⟨rfl, hContent.trans (congrArg Http.Content.document hData)⟩
        · exact Http.Content.document.inj (hContent.symm.trans h.2)
      success := iff_of_true ⟨_, .fetched documents, rfl, rfl⟩ rfl
      exitCode := fun _ => iff_of_true rfl rfl
      output := by
        rintro data ⟨report, hReport, hData⟩ withCauses
        rw [hReport, ← hData]
        rfl
      statements := rfl }

end

theorem agree_of_asks {limit : Option Int} {limitText fields filters : Option String} {kind : Kind}
    {script : Script} {s : Cli.Surroundings} {args : List String} {api : Http.Api}
    {r : Http.Request} (hLimit : LimitText limit limitText) (hMeets : s.Meets script)
    (hArgs : Cli.Asks args kind fields filters limit) (hSettings : api.fetch = s.settings.fetch)
    (hCaller : api.checkCaller (.fetch kind) r = .ok ())
    (hRequest : r.Asks kind fields filters limitText) :
    Agree ((Cli.operate s args).run .scripted (.start script))
      ((api.respond r).run .scripted (.start script)) := by
  rw [Http.Api.run_respond hRequest hCaller, hSettings, Request.ofTexts?_eq_ofArguments? hLimit]
  rcases hMeets.connect with ⟨pool, hConnect⟩ | ⟨fault, hConnect, hUnreachable⟩
  · rw [Cli.run_operate hArgs hConnect]
    exact agree_of_fetched hRequest.method _
  · -- the command gives up before it looks at its request, the fetch with the request or after it
    obtain ⟨cause, hFails⟩ := failsOn_fetchRequested hUnreachable s.settings.fetch kind
      (Request.ofArguments? fields filters limit)
    rw [Cli.operate_of_connect_eq_error hArgs hConnect, hFails]
    exact agree_of_failures (.database fault) cause

/-! ## Asking for anything -/

/-- The parameters of a fetch that are given. -/
def parameters (fields filters limit : Option String) : List (String × String) :=
  (fields.map ("fields", ·)).toList ++ (filters.map ("filters", ·)).toList ++
    (limit.map ("limit", ·)).toList

namespace Http.Request

/-- The request with the parameters as its query. -/
def written (kind : Kind) (fields filters limit : Option String) : Request where
  method := "GET"
  target := ⟨"/api/v1/" ++ kind.table ++ "/fetch",
    some (Text.formText (parameters fields filters limit))⟩
  headers := []
  body := ""

/-- Any texts can be asked for in a query. -/
theorem written_asks (kind : Kind) (fields filters limit : Option String) :
    (written kind fields filters limit).Asks kind fields filters limit where
  method := rfl
  path := by
    change Route.ofPath? ("/api/v1/" ++ kind.table ++ "/fetch") = some (.fetch kind)
    cases kind <;> rfl
  query := by
    simp only [written, readQuery, Option.getD_some, Text.encode_formText,
      Text.formPairs_formQuery]
    cases fields <;> cases filters <;> cases limit <;> exact ⟨_, rfl, rfl, rfl, rfl⟩

end Http.Request

namespace Cli

theorem takes_of_mem_parameters {kind : Kind} {fields filters : Option String}
    {limit : Option Int} (hFits : ∀ n ∈ limit, Text.fitsInt64 n = true) {x : String × String}
    (hx : x ∈ parameters fields filters (limit.map Text.ofInt)) :
    (fetchKindCommand kind).Takes x := by
  simp only [parameters, List.mem_append, Option.mem_toList, Option.map_map,
    Option.map_eq_some_iff] at hx
  rcases hx with (⟨text, -, rfl⟩ | ⟨text, -, rfl⟩) | ⟨n, hn, rfl⟩
  · exact ⟨(by decide : '=' ∉ "fields".toList), rfl, _, rfl, rfl⟩
  · exact ⟨(by decide : '=' ∉ "filters".toList), rfl, _, rfl, rfl⟩
  · exact ⟨(by decide : '=' ∉ "limit".toList), rfl, _, rfl,
      by simp [Text.int64?_ofInt (hFits n hn)]⟩

theorem lookup_parameters (fields filters limit : Option String) :
    (parameters fields filters limit).reverse.lookup "fields" = fields ∧
      (parameters fields filters limit).reverse.lookup "filters" = filters ∧
      (parameters fields filters limit).reverse.lookup "limit" = limit := by
  cases fields <;> cases filters <;> cases limit <;> exact ⟨rfl, rfl, rfl⟩

/-- Any texts and any limit can be asked for by a command. -/
theorem asks_fetchArguments (kind : Kind) (fields filters : Option String) {limit : Option Int}
    (hFits : ∀ n ∈ limit, Text.fitsInt64 n = true) :
    Asks (fetchArguments kind (parameters fields filters (limit.map Text.ofInt))) kind fields
      filters limit := by
  have hNodup : ((parameters fields filters (limit.map Text.ofInt)).map (·.1)).Nodup := by
    cases fields <;> cases filters <;> cases limit <;> simp [parameters]
  have hRead := read_fetchArguments kind (parameters fields filters (limit.map Text.ofInt))
  rw [Progress.start, Command.readFrom_options (by cases kind <;> rfl)
    (fun x => takes_of_mem_parameters hFits) hNodup fun _ _ => rfl, List.append_nil] at hRead
  obtain ⟨hFields, hFilters, hLimit⟩ := lookup_parameters fields filters (limit.map Text.ofInt)
  have hInt : (limit.map Text.ofInt).bind Text.int64? = limit := by
    cases limit with
    | none => rfl
    | some n => exact Text.int64?_ofInt (hFits n rfl)
  have hTask : Task.ofGiven
      ⟨plural kind, [], (parameters fields filters (limit.map Text.ofInt)).reverse, []⟩ =
        .fetch kind fields filters limit := by
    simp only [Task.ofGiven, Given.value?, hFields, hFilters, hLimit, hInt]
    cases kind <;> rfl
  refine ⟨⟨false, true, .fetch kind fields filters limit⟩, ?_, rfl, rfl⟩
  rw [Invocation.ofArguments, hRead, ← hTask]
  cases kind <;> rfl

end Cli

/-- The environment that sets the engine as given, and nothing else. -/
def Variables.ofFetch (f : FetchSettings) : Variables := fun name => List.lookup name [
  ("FETCH_MAX_LIMIT", (f.maxLimit.map Text.ofInt).getD "none"),
  ("FETCH_DEBUG_LOGGING", toString f.debugLogging),
  ("FETCH_CAMPAIGN_ALL_FIELDS_WHEN_EMPTY", toString f.campaign.allFieldsWhenEmpty),
  ("FETCH_CAMPAIGN_KEEP_ROWS_WITHOUT_RELATED", toString f.campaign.keepRowsWithoutRelated),
  ("FETCH_AD_GROUP_ALL_FIELDS_WHEN_EMPTY", toString f.adGroup.allFieldsWhenEmpty),
  ("FETCH_AD_GROUP_KEEP_ROWS_WITHOUT_RELATED", toString f.adGroup.keepRowsWithoutRelated)]

theorem Variables.bool_ofFetch {f : FetchSettings} {name : String} {b : Bool}
    (h : ofFetch f name = some (toString b)) (current : Bool) :
    (ofFetch f).bool name current = b := by
  rw [Variables.bool, override, h]
  cases b <;> rfl

theorem Variables.cap_ofFetch {f : FetchSettings}
    (hFits : ∀ cap ∈ f.maxLimit, Text.fitsInt64 cap = true) (current : Option Int) :
    (ofFetch f).override "FETCH_MAX_LIMIT" cap? current = f.maxLimit := by
  have hText : ofFetch f "FETCH_MAX_LIMIT" = some ((f.maxLimit.map Text.ofInt).getD "none") := rfl
  rw [override, hText]
  cases hMax : f.maxLimit with
  | none => rfl
  | some cap =>
    simp only [Option.map_some, Option.getD_some, Option.bind_some, cap?_ofInt (hFits cap hMax)]

/-- Whatever the settings of the engine are, they are those in some environment. -/
theorem ofVariables_fetch {f : FetchSettings}
    (hFits : ∀ cap ∈ f.maxLimit, Text.fitsInt64 cap = true) :
    (AppSettings.ofVariables (.ofFetch f)).fetch = f := by
  have hBool := @Variables.bool_ofFetch f
  have hCampaign (d : DirectionSettings) : d.under (.ofFetch f) "FETCH_CAMPAIGN" = f.campaign := by
    simp only [DirectionSettings.under]
    rw [hBool rfl, hBool rfl]
  have hAdGroup (d : DirectionSettings) : d.under (.ofFetch f) "FETCH_AD_GROUP" = f.adGroup := by
    simp only [DirectionSettings.under]
    rw [hBool rfl, hBool rfl]
  simp only [AppSettings.ofVariables, AppSettings.under, FetchSettings.under, hCampaign, hAdGroup,
    Variables.cap_ofFetch hFits]
  rw [hBool rfl]

/-! ## The front ends -/

/-- For limits that say the same, a query and a command make the same request of the same texts, or
the same fault. So the response to one who may ask and the ending of the command in JSON agree on
every scripted database, for all settings of the engine. Any texts and any limit can be asked for in
both ways, and the settings can be any. -/
theorem front_ends_agree {limit : Option Int} {limitText : Option String}
    (hLimit : LimitText limit limitText) (fields filters : Option String) (kind : Kind) :
    Request.ofTexts? fields filters limitText = Request.ofArguments? fields filters limit ∧
      (∀ (script : Script) (s : Cli.Surroundings) (args : List String) (api : Http.Api)
        (r : Http.Request), s.Meets script → Cli.Asks args kind fields filters limit →
        api.fetch = s.settings.fetch → api.checkCaller (.fetch kind) r = .ok () →
        r.Asks kind fields filters limitText →
          Agree ((Cli.operate s args).run .scripted (.start script))
            ((api.respond r).run .scripted (.start script))) ∧
      ∀ (script : Script) (f : FetchSettings), (∀ cap ∈ f.maxLimit, Text.fitsInt64 cap = true) →
        ∃ (s : Cli.Surroundings) (args : List String) (api : Http.Api) (r : Http.Request),
          s.settings.fetch = f ∧ s.Meets script ∧ Cli.Asks args kind fields filters limit ∧
            api.fetch = f ∧ api.checkCaller (.fetch kind) r = .ok () ∧
            r.Asks kind fields filters limitText := by
  refine ⟨Request.ofTexts?_eq_ofArguments? hLimit fields filters, ?_, ?_⟩
  · intro script s args api r hMeets hArgs hSettings hCaller hRequest
    exact agree_of_asks hLimit hMeets hArgs hSettings hCaller hRequest
  · intro script f hCap
    have hFits : ∀ n ∈ limit, Text.fitsInt64 n = true := by
      cases hLimit with
      | none => exact nofun
      | some hFits => exact fun n hn => Option.some.inj hn ▸ hFits
    exact ⟨⟨.ofFetch f, 0, script.server⟩, _, ⟨f, ⟨false, "", 4⟩, 0⟩, _, ofVariables_fetch hCap,
      ⟨rfl, (by decide : 10 ≠ 0), (by decide : 30 ≠ 0)⟩,
      Cli.asks_fetchArguments kind fields filters hFits, rfl, rfl,
      Http.Request.written_asks kind fields filters limitText⟩

/-- A database that gives a campaign with its ad group. -/
def oneCampaign : Script := .replies [.ok [[.int 7, .text "camp-1", .int 70]]]

/-- Surroundings without variables, with that database. -/
def plainSurroundings : Cli.Surroundings := ⟨fun _ => none, 0, oneCampaign.server⟩

/-- A limit between blank characters says the same as the number. -/
theorem front_ends_agree_padded :
    LimitText (some 5) (some " 5\t") ∧
      Request.ofTexts? (some "name") none (some " 5\t") =
        Request.ofArguments? (some "name") none (some 5) ∧
      Agree ((Cli.operate plainSurroundings
          ["--json", "fetch", "campaigns", "--fields=name", "--limit=5"]).run .scripted
            (.start oneCampaign))
        ((Http.Api.respond ⟨.capped 1000 true, ⟨false, "", 4⟩, 0⟩
          (.written .campaign (some "name") none (some " 5\t"))).run .scripted
            (.start oneCampaign)) ∧
      ((Http.Api.respond ⟨.capped 1000 true, ⟨false, "", 4⟩, 0⟩
        (.written .campaign (some "name") none (some " 5\t"))).run .scripted
          (.start oneCampaign)).1.status = 200 := by
  have hText : " " ++ Text.ofInt 5 ++ "\t" = " 5\t" := by decide
  have hLimit : LimitText (some 5) (some " 5\t") :=
    hText ▸ .some (by decide) (by decide) (by decide)
  obtain ⟨hRequest, hRuns, -⟩ := front_ends_agree hLimit (some "name") none .campaign
  have hAgree := hRuns oneCampaign plainSurroundings
    ["--json", "fetch", "campaigns", "--fields=name", "--limit=5"]
    ⟨.capped 1000 true, ⟨false, "", 4⟩, 0⟩ (.written .campaign (some "name") none (some " 5\t"))
    ⟨rfl, by decide, by decide⟩ ⟨_, rfl, rfl, rfl⟩ rfl rfl
    (Http.Request.written_asks .campaign (some "name") none (some " 5\t"))
  exact ⟨hLimit, hRequest, hAgree, (hAgree.exitCode false).mp (by decide +kernel)⟩

end CampaignFetch

import CampaignFetch.Database.Script
import CampaignFetch.Http.Router
import Mathlib.Data.List.Forall2

/-!
# Texts of database faults stay hidden

Two databases that differ only in the texts of their faults get the same response from the router,
for every request. This is a statement about two runs: a program is related to itself by
`Program.Alike` when it asks the same and gives related results as long as the replies are alike.

* `Program.Alike.bind`, `Program.alike_adapt`: the relation goes through sequences.
* `Access.alike_all`, `Access.alike_first?`: what is asked of a table.
* `Handler.alike_service`, `Handler.alike_fetch`: what is told of a fault is the same.
* `Api.alike_respond`: the whole router.
* `Program.Alike.run`, `Backend.alike_scripted`: from programs to runs against scripted databases.
-/

namespace CampaignFetch

/-! ## Faults and replies that differ in their texts -/

/-- The fault without the text that it carries. -/
def DatabaseFault.withoutText : DatabaseFault → DatabaseFault
  | .configMissing _ => .configMissing ""
  | .query _ => .query ""
  | .migration _ => .migration ""
  | .server _ => .server ""
  | fault => fault

/-- The faults are of the same kind, whatever their texts. -/
def DatabaseFault.SameKind (f g : DatabaseFault) : Prop := f.withoutText = g.withoutText

theorem DatabaseFault.SameKind.refl (f : DatabaseFault) : f.SameKind f := rfl

/-- Both results are the same value, or both are faults in the relation. -/
inductive SameUpTo {ε ε' α : Type} (F : ε → ε' → Prop) : Except ε α → Except ε' α → Prop
  | ok (a : α) : SameUpTo F (.ok a) (.ok a)
  | error {e : ε} {e' : ε'} (h : F e e') : SameUpTo F (.error e) (.error e')

/-- The results are the same up to the texts of faults. -/
abbrev Hidden {α : Type} : Except DatabaseFault α → Except DatabaseFault α → Prop :=
  SameUpTo DatabaseFault.SameKind

section

variable {α β ε ε' : Type}

theorem SameUpTo.refl {F : ε → ε → Prop} (hF : ∀ e, F e e) (x : Except ε α) : SameUpTo F x x := by
  cases x with
  | ok a => exact .ok a
  | error e => exact .error (hF e)

theorem SameUpTo.bind {F : ε → ε' → Prop} {x : Except ε α} {x' : Except ε' α}
    {f : α → Except ε β} {f' : α → Except ε' β} (h : SameUpTo F x x')
    (hNext : ∀ a, SameUpTo F (f a) (f' a)) : SameUpTo F (x >>= f) (x' >>= f') := by
  cases h with
  | ok a => exact hNext a
  | error h => exact .error h

theorem hidden_refl (x : Except DatabaseFault α) : Hidden x x :=
  .refl DatabaseFault.SameKind.refl x

end

/-! ## Programs -/

namespace Program

variable {α α' β β' ε ε' : Type}

/-- The programs ask the same, and as long as the replies are the same up to the texts of faults,
what they give is in the relation. -/
inductive Alike (R : α → α' → Prop) : Program α → Program α' → Prop
  | done {a : α} {a' : α'} (h : R a a') : Alike R (.done a) (.done a')
  | execute {s : Statement} {next : Reply → Program α} {next' : Reply → Program α'}
      (h : ∀ reply reply', Hidden reply reply' → Alike R (next reply) (next' reply')) :
      Alike R (.execute s next) (.execute s next')
  | join {q : JoinQuery} {next : JoinReply → Program α} {next' : JoinReply → Program α'}
      (h : ∀ reply reply', Hidden reply reply' → Alike R (next reply) (next' reply')) :
      Alike R (.join q next) (.join q next')

theorem Alike.bind {R : α → α' → Prop} {R' : β → β' → Prop} {p : Program α} {p' : Program α'}
    {f : α → Program β} {f' : α' → Program β'} (h : p.Alike R p')
    (hNext : ∀ a a', R a a' → (f a).Alike R' (f' a')) : (p.bind f).Alike R' (p'.bind f') := by
  induction h with
  | done h => exact hNext _ _ h
  | execute _ ih => exact .execute ih
  | join _ ih => exact .join ih

/-- A program that may fail gives the same value in both runs, or faults in the relation. -/
def Keeps (F : ε → ε → Prop) (p : ExceptT ε Program α) : Prop :=
  Alike (SameUpTo F) p.run p.run

variable {F : ε → ε → Prop} {F' : ε' → ε' → Prop}

theorem keeps_done (hF : ∀ e, F e e) (x : Except ε α) : Keeps F (ExceptT.mk (.done x)) :=
  .done (.refl hF x)

theorem keeps_throw {e : ε} (h : F e e) : Keeps F (throw e : ExceptT ε Program α) :=
  .done (.error h)

theorem keeps_pure (a : α) : Keeps F (pure a) := .done (.ok a)

theorem Keeps.bind {p : ExceptT ε Program α} {f : α → ExceptT ε Program β} (h : Keeps F p)
    (hNext : ∀ a, Keeps F (f a)) : Keeps F (p >>= f) := by
  refine Alike.bind h fun x x' hx => ?_
  cases hx with
  | ok a => exact hNext a
  | error h => exact .done (.error h)

theorem keeps_adapt {f : ε → ε'} {p : ExceptT ε Program α} (h : Keeps F p)
    (hF : ∀ e e', F e e' → F' (f e) (f e')) : Keeps F' (ExceptT.adapt f p) := by
  refine Alike.bind h fun x x' hx => ?_
  cases hx with
  | ok a => exact .done (.ok a)
  | error h => exact .done (.error (hF _ _ h))

theorem keeps_ask (s : Statement) : Keeps DatabaseFault.SameKind (ask s) :=
  .execute fun _ _ h => .done h

end Program

open Program

/-! ## Tables -/

namespace Access

variable {α : Type}

/-- The work on the tables ends in faults of the same kind, if it fails. -/
abbrev Keeps (a : Access α) : Prop := Program.Keeps DatabaseFault.SameKind a

theorem keeps_ofDecoded (d : Decoded α) : (ofDecoded d).Keeps :=
  keeps_done DatabaseFault.SameKind.refl d

theorem keeps_all (decode : Cells → Decoded α) (s : Statement) : (all decode s).Keeps :=
  (keeps_ask s).bind fun _ => keeps_ofDecoded _

theorem keeps_first? (decode : Cells → Decoded α) (s : Statement) : (first? decode s).Keeps := by
  refine (keeps_ask s).bind fun rows => ?_
  cases rows with
  | nil => exact keeps_pure none
  | cons cells rows => exact keeps_ofDecoded _

theorem keeps_one (decode : Cells → Decoded α) (s : Statement) : (one decode s).Keeps := by
  refine (keeps_first? decode s).bind fun found => ?_
  cases found with
  | none => exact keeps_throw (DatabaseFault.SameKind.refl .rowNotFound)
  | some a => exact keeps_pure a

theorem keeps_check : check.Keeps := (keeps_ask _).bind fun _ => keeps_pure ()

end Access

theorem CampaignTable.keeps_findAll (ids : List Int) : (findAll ids).Keeps := by
  unfold findAll
  split
  · exact keeps_pure []
  · exact Access.keeps_all _ _

theorem AdGroupTable.keeps_findLive (ksName : String) : (findLive ksName).Keeps :=
  (Access.keeps_all _ _).bind fun _ => (CampaignTable.keeps_findAll _).bind fun _ => keeps_pure _

/-! ## Faults as they are told -/

theorem Problem.ofDatabase_of_sameKind {f g : DatabaseFault} (h : f.SameKind g) :
    Problem.ofDatabase f = Problem.ofDatabase g := by
  have hText : ∀ fault : DatabaseFault,
      Problem.ofDatabase fault.withoutText = Problem.ofDatabase fault := by
    intro fault
    cases fault <;> rfl
  rw [← hText f, h, hText g]

/-- Clients are told the same of the faults. -/
def ServiceFault.SameTold (f g : ServiceFault) : Prop := Problem.ofService f = Problem.ofService g

@[inherit_doc ServiceFault.SameTold]
def FetchFault.SameTold (f g : FetchFault) : Prop := Problem.ofFetch f = Problem.ofFetch g

theorem FetchFault.SameTold.refl (f : FetchFault) : f.SameTold f := rfl

/-! ## Services -/

namespace Service

variable {α : Type}

/-- The service ends in faults that are told alike, if it fails. -/
abbrev Keeps (s : Service α) : Prop := Program.Keeps ServiceFault.SameTold s

theorem keeps_ofAccess {a : Access α} (h : a.Keeps) : (ofAccess a).Keeps :=
  keeps_adapt h fun _ _ hKind => Problem.ofDatabase_of_sameKind hKind

theorem keeps_found (kind : Kind) (id : Int) {a : Access (Option α)} (h : a.Keeps) :
    (found kind id a).Keeps := by
  refine (keeps_ofAccess h).bind fun entity => ?_
  cases entity with
  | none => exact keeps_throw rfl
  | some entity => exact keeps_pure entity

theorem keeps_requireName (name : String) : (requireName name).Keeps := by
  unfold requireName
  split
  · exact keeps_throw rfl
  · exact keeps_pure ()

end Service

theorem AdGroups.keeps_create (new : NewAdGroup) : (AdGroups.create new).Keeps := by
  refine (Service.keeps_requireName _).bind fun _ => ?_
  refine (Service.keeps_ofAccess (Access.keeps_first? _ _)).bind fun campaign => ?_
  cases campaign with
  | none => exact keeps_throw rfl
  | some campaign => exact Service.keeps_ofAccess (Access.keeps_one _ _)

theorem AdGroups.keeps_update (id : Int) (change : AdGroupUpdate) :
    (AdGroups.update id change).Keeps :=
  (Service.keeps_requireName _).bind fun _ => Service.keeps_found _ _ (Access.keeps_first? _ _)

theorem AdGroups.keeps_live (ksName : String) : (AdGroups.live ksName).Keeps :=
  Service.keeps_ofAccess (AdGroupTable.keeps_findLive ksName)

theorem Campaigns.keeps_create (new : NewCampaign) : (Campaigns.create new).Keeps :=
  (Service.keeps_requireName _).bind fun _ => Service.keeps_ofAccess (Access.keeps_one _ _)

theorem Campaigns.keeps_update (id : Int) (change : CampaignUpdate) :
    (Campaigns.update id change).Keeps :=
  (Service.keeps_requireName _).bind fun _ => Service.keeps_found _ _ (Access.keeps_first? _ _)

/-! ## Fetches -/

/-- The fetch ends in faults that are told alike, if it fails. -/
abbrev KeepsFetch {α : Type} (p : ExceptT FetchFault Program α) : Prop :=
  Program.Keeps FetchFault.SameTold p

theorem keeps_fetchGroups (P R : Type) [Entity P] [Entity R] (s : FetchSettings)
    (request : Request) : KeepsFetch (fetchGroups P R s request) := by
  unfold fetchGroups
  cases s.plan (Entity.kind P) request with
  | error fault => exact keeps_throw rfl
  | ok plan =>
    refine .join fun reply reply' h => .done ?_
    cases h with
    | ok rows => exact .ok _
    | error h => exact .error rfl

theorem keeps_fetchDocuments (s : FetchSettings) (primary : Kind) (request : Request) :
    KeepsFetch (fetchDocuments s primary request) := by
  cases primary with
  | campaign =>
    exact ((keeps_fetchGroups _ _ s request).bind fun _ => keeps_pure _).bind fun _ => keeps_pure _
  | adGroup =>
    exact ((keeps_fetchGroups _ _ s request).bind fun _ => keeps_pure _).bind fun _ => keeps_pure _

/-! ## The router -/

namespace Http

namespace Handler

variable {α : Type}

/-- The handler ends in the same answer, if it fails. -/
abbrev Keeps (h : Handler α) : Prop := Program.Keeps Eq h

theorem keeps_part (p : Except Rejection α) : (part p).Keeps :=
  keeps_done Eq.refl _

theorem keeps_service {s : Service α} (h : s.Keeps) : (service s).Keeps :=
  keeps_adapt h fun _ _ hTold => congrArg Answer.ofProblem hTold

theorem keeps_fetch (request : Except FetchFault CampaignFetch.Request)
    {run : CampaignFetch.Request → ExceptT FetchFault Program α}
    (h : ∀ request, KeepsFetch (run request)) : (fetch request run).Keeps :=
  have hRequest : KeepsFetch (ExceptT.mk (.done request)) :=
    keeps_done FetchFault.SameTold.refl request
  keeps_adapt (hRequest.bind h) fun _ _ hTold => congrArg Answer.ofProblem hTold

theorem alike_answer {h : Handler Answer} (hKeeps : h.Keeps) : h.answer.Alike Eq h.answer := by
  refine Alike.bind hKeeps fun x x' hx => ?_
  cases hx with
  | ok a => exact .done rfl
  | error h => exact .done h

end Handler

theorem alike_health : health.Alike Eq health := by
  refine Alike.bind Access.keeps_check fun x x' hx => ?_
  cases hx with
  | ok u => exact .done rfl
  | error h => exact .done rfl

theorem keeps_createCampaign (r : Request) : (createCampaign r).Keeps :=
  (Handler.keeps_part _).bind fun new =>
    (Handler.keeps_service (Campaigns.keeps_create new)).bind fun _ => keeps_pure _

theorem keeps_createAdGroup (r : Request) : (createAdGroup r).Keeps :=
  (Handler.keeps_part _).bind fun new =>
    (Handler.keeps_service (AdGroups.keeps_create new)).bind fun _ => keeps_pure _

theorem keeps_handleCampaign (method : Method) (id : Int) (r : Request) :
    (handleCampaign method id r).Keeps := by
  have hEntity : ∀ s : Service Campaign, s.Keeps → Handler.Keeps (do
      let campaign ← Handler.service s
      pure (Answer.data 200 campaign.toJson)) :=
    fun s hs => (Handler.keeps_service hs).bind fun _ => keeps_pure _
  have hFound : ∀ a : Access (Option Campaign), a.Keeps →
      (Service.found .campaign id a).Keeps := fun a ha => Service.keeps_found _ _ ha
  cases method with
  | put =>
    exact (Handler.keeps_part _).bind fun change => hEntity _ (Campaigns.keeps_update id change)
  | delete => exact hEntity _ (hFound _ (Access.keeps_first? _ _))
  | get | post => exact hEntity _ (hFound _ (Access.keeps_first? _ _))

theorem keeps_handleAdGroup (method : Method) (id : Int) (r : Request) :
    (handleAdGroup method id r).Keeps := by
  have hEntity : ∀ s : Service AdGroup, s.Keeps → Handler.Keeps (do
      let group ← Handler.service s
      pure (Answer.data 200 group.toJson)) :=
    fun s hs => (Handler.keeps_service hs).bind fun _ => keeps_pure _
  have hFound : ∀ a : Access (Option AdGroup), a.Keeps →
      (Service.found .adGroup id a).Keeps := fun a ha => Service.keeps_found _ _ ha
  cases method with
  | put =>
    exact (Handler.keeps_part _).bind fun change => hEntity _ (AdGroups.keeps_update id change)
  | delete => exact hEntity _ (hFound _ (Access.keeps_first? _ _))
  | get | post => exact hEntity _ (hFound _ (Access.keeps_first? _ _))

theorem keeps_handleFetch (s : FetchSettings) (kind : Kind) (r : Request) :
    (handleFetch s kind r).Keeps :=
  (Handler.keeps_part _).bind fun _ =>
    (Handler.keeps_fetch _ (keeps_fetchDocuments s kind)).bind fun _ => keeps_pure _

theorem keeps_handleLive (segment : String) : (handleLive segment).Keeps :=
  (Handler.keeps_part _).bind fun ksName =>
    (Handler.keeps_service (AdGroups.keeps_live ksName)).bind fun _ => keeps_pure _

namespace Api

theorem alike_handle (api : Api) (route : Route) (method : Method) (r : Request) :
    (api.handle route method r).Alike Eq (api.handle route method r) := by
  cases route with
  | root => exact .done rfl
  | health => exact alike_health
  | collection kind =>
    cases kind with
    | campaign => exact Handler.alike_answer (keeps_createCampaign r)
    | adGroup => exact Handler.alike_answer (keeps_createAdGroup r)
  | fetch kind => exact Handler.alike_answer (keeps_handleFetch api.fetch kind r)
  | entity kind id =>
    cases kind with
    | campaign =>
      exact Handler.alike_answer
        ((Handler.keeps_part _).bind fun id => keeps_handleCampaign method id r)
    | adGroup =>
      exact Handler.alike_answer
        ((Handler.keeps_part _).bind fun id => keeps_handleAdGroup method id r)
  | live segment => exact Handler.alike_answer (keeps_handleLive segment)

theorem alike_answer (api : Api) (route : Route) (r : Request) :
    (api.answer route r).Alike Eq (api.answer route r) := by
  unfold answer
  cases api.checkCaller route r with
  | error problem => exact .done rfl
  | ok u =>
    cases route.method? r.method with
    | none => exact .done rfl
    | some method => exact alike_handle api route method r

/-- The response is the same as long as the replies are the same up to the texts of faults. -/
theorem alike_respond (api : Api) (r : Request) : (api.respond r).Alike Eq (api.respond r) := by
  by_cases hOptions : r.method = "OPTIONS"
  · rw [respond_options hOptions]
    exact .done rfl
  · cases hRoute : Route.ofPath? r.target.path with
    | none =>
      rw [respond_unknown hOptions hRoute]
      exact .done rfl
    | some route =>
      rw [respond_route hOptions hRoute]
      exact (alike_answer api route r).bind fun a a' hSame => .done (hSame ▸ rfl)

end Api

end Http

/-! ## Runs -/

/-- The backends answer the same up to the texts of faults, as long as their states are in the
relation. -/
structure Backend.Alike {σ σ' : Type} (S : σ → σ' → Prop) (b : Backend σ) (b' : Backend σ') :
    Prop where
  execute : ∀ s state state', S state state' →
    Hidden (b.execute s state).1 (b'.execute s state').1 ∧
      S (b.execute s state).2 (b'.execute s state').2
  join : ∀ q state state', S state state' →
    Hidden (b.join q state).1 (b'.join q state').1 ∧ S (b.join q state).2 (b'.join q state').2

theorem Program.Alike.run {α α' σ σ' : Type} {R : α → α' → Prop} {S : σ → σ' → Prop}
    {p : Program α} {p' : Program α'} (h : p.Alike R p') {b : Backend σ} {b' : Backend σ'}
    (hBackends : b.Alike S b') {state : σ} {state' : σ'} (hStates : S state state') :
    R (p.run b state).1 (p'.run b' state').1 ∧ S (p.run b state).2 (p'.run b' state').2 := by
  induction h generalizing state state' with
  | done h => exact ⟨h, hStates⟩
  | execute _ ih =>
    obtain ⟨hReplies, hNext⟩ := hBackends.execute _ _ _ hStates
    exact ih _ _ hReplies hNext
  | join _ ih =>
    obtain ⟨hReplies, hNext⟩ := hBackends.join _ _ _ hStates
    exact ih _ _ hReplies hNext

/-- The scripts give the same replies up to the texts of faults. -/
inductive Script.Alike : Script → Script → Prop
  | replies {list list' : List Reply} (h : List.Forall₂ Hidden list list') :
      Alike (.replies list) (.replies list')
  | down : Alike .down .down
  | timeout : Alike .timeout .timeout

/-- The scripts of the databases are alike, and the same statements were sent to both. -/
structure ScriptedDatabase.Alike (db db' : ScriptedDatabase) : Prop where
  script : db.script.Alike db'.script
  sent : db.sent = db'.sent

theorem ScriptedDatabase.alike_execute (s : Statement) {db db' : ScriptedDatabase}
    (h : db.Alike db') :
    Hidden (db.execute s).1 (db'.execute s).1 ∧ (db.execute s).2.Alike (db'.execute s).2 := by
  obtain ⟨script, sent⟩ := db
  obtain ⟨script', sent'⟩ := db'
  obtain ⟨hScript, rfl⟩ := h
  cases hScript with
  | down => exact ⟨hidden_refl _, .down, rfl⟩
  | timeout => exact ⟨hidden_refl _, .timeout, rfl⟩
  | replies hList =>
    cases hList with
    | nil => exact ⟨hidden_refl _, .replies .nil, rfl⟩
    | cons hReply hRest => exact ⟨hReply, .replies hRest, rfl⟩

theorem Backend.alike_scripted : Backend.scripted.Alike ScriptedDatabase.Alike .scripted where
  execute s _ _ h := ScriptedDatabase.alike_execute s h
  join q _ _ h := by
    obtain ⟨hReplies, hNext⟩ := ScriptedDatabase.alike_execute q.statement h
    exact ⟨hReplies.bind fun _ => hidden_refl _, hNext⟩

theorem Backend.alike_ofStore (store : JoinQuery → JoinReply) :
    (Backend.ofStore store).Alike ScriptedDatabase.Alike (.ofStore store) where
  execute s _ _ h := ScriptedDatabase.alike_execute s h
  join q _ _ h := ⟨hidden_refl (store q), h⟩

/-! ## Errors of the server -/

/-- An error as a server sends it. -/
structure ServerError where
  message : String
  /-- The SQLSTATE code. -/
  code : String

/-- What a server sends for a statement. -/
abbrev ServerReply := Except ServerError (List Cells)

namespace ServerReply

/-- The reply as it reaches the application. -/
def received (reply : ServerReply) : Reply := reply.mapError fun error => .server error.message

/-- Both replies are the same rows, or both are errors. -/
abbrev Alike : ServerReply → ServerReply → Prop := SameUpTo fun _ _ => True

theorem hidden_received {reply reply' : ServerReply} (h : reply.Alike reply') :
    Hidden reply.received reply'.received := by
  cases h with
  | ok rows => exact .ok rows
  | error _ => exact .error rfl

end ServerReply

/-- A database whose server sends these replies. -/
def ScriptedDatabase.ofServer (replies : List ServerReply) : ScriptedDatabase :=
  .start (.replies (replies.map ServerReply.received))

theorem ScriptedDatabase.alike_ofServer {replies replies' : List ServerReply}
    (h : List.Forall₂ ServerReply.Alike replies replies') :
    (ofServer replies).Alike (ofServer replies') where
  script := .replies (List.forall₂_map_left_iff.mpr (List.forall₂_map_right_iff.mpr
    (h.imp fun _ _ hReply => ServerReply.hidden_received hReply)))
  sent := rfl

/-! ## Responses -/

/-- The response to a request is the same for any two databases whose servers send the same replies
except for the messages and codes of errors, wherever joins are answered from; and so it is for
databases whose replies differ in the texts of any faults, which are left alike. Faults of the same
kind are told to clients as the same problem, whether they come from the database itself, from a
fetch or from a service. -/
theorem hidden_faults :
    (∀ (api : Http.Api) (r : Http.Request) (replies replies' : List ServerReply),
      List.Forall₂ ServerReply.Alike replies replies' →
        ((api.respond r).run .scripted (.ofServer replies)).1 =
          ((api.respond r).run .scripted (.ofServer replies')).1 ∧
        ∀ store : JoinQuery → JoinReply,
          ((api.respond r).run (.ofStore store) (.ofServer replies)).1 =
            ((api.respond r).run (.ofStore store) (.ofServer replies')).1) ∧
    (∀ (api : Http.Api) (r : Http.Request) (db db' : ScriptedDatabase), db.Alike db' →
      ((api.respond r).run .scripted db).1 = ((api.respond r).run .scripted db').1 ∧
        ((api.respond r).run .scripted db).2.Alike ((api.respond r).run .scripted db').2) ∧
    ∀ f g : DatabaseFault, f.SameKind g →
      Problem.ofDatabase f = Problem.ofDatabase g ∧
        Problem.ofFetch (.execution f) = Problem.ofFetch (.execution g) ∧
        Problem.ofService (.database f) = Problem.ofService (.database g) := by
  refine ⟨fun api r replies replies' h => ?_, fun api r db db' h => ?_, fun f g h => ?_⟩
  · have hStates := ScriptedDatabase.alike_ofServer h
    have hProgram := Http.Api.alike_respond api r
    exact ⟨(hProgram.run Backend.alike_scripted hStates).1,
      fun store => (hProgram.run (Backend.alike_ofStore store) hStates).1⟩
  · exact (Http.Api.alike_respond api r).run Backend.alike_scripted h
  · exact ⟨Problem.ofDatabase_of_sameKind h, rfl, Problem.ofDatabase_of_sameKind h⟩

/-- What a server sends that misses a table. -/
def missingTable : List ServerReply :=
  [.error ⟨"relation \"campaign\" does not exist", "42P01"⟩]

/-- What a server sends that misses a column. -/
def missingColumn : List ServerReply :=
  [.error ⟨"column \"ks_name\" does not exist", "42703"⟩]

/-- A request for a campaign, which nobody has to be authenticated for. -/
def openRequest : Program Http.Response :=
  Http.Api.respond ⟨.standard, ⟨false, "", 4⟩, 0⟩ ⟨"GET", ⟨"/api/v1/campaign/7", none⟩, [], ""⟩

theorem hidden_faults_missing :
    (openRequest.run .scripted (.ofServer missingTable)).1.status = 500 ∧
      (openRequest.run .scripted (.ofServer missingTable)).1 =
        (openRequest.run .scripted (.ofServer missingColumn)).1 ∧
      (openRequest.run .scripted (.ofServer missingTable)).2.Alike
        (openRequest.run .scripted (.ofServer missingColumn)).2 ∧
      Problem.ofService (.database (.migration "20240101")) =
        Problem.ofService (.database (.migration "20240201")) := by
  obtain ⟨hServers, hDatabases, hFaults⟩ := hidden_faults
  have hReplies : List.Forall₂ ServerReply.Alike missingTable missingColumn :=
    .cons (.error trivial) .nil
  exact ⟨by decide +kernel, (hServers _ _ _ _ hReplies).1,
    (hDatabases _ _ _ _ (ScriptedDatabase.alike_ofServer hReplies)).2, (hFaults _ _ rfl).2.2⟩

end CampaignFetch

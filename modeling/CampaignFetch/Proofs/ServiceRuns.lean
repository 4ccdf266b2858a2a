import CampaignFetch.Proofs.TableWrites
import CampaignFetch.Service.AdGroups
import CampaignFetch.Service.Campaigns

/-!
# Runs of service calls

Calls of the two services run at the same time, each a program that sends one statement after the
other. The tables execute one statement at a time, of whichever call it is.

* `Reachable` are the tables, and what is left of the calls, after any such run.
* `Program.Safe` is what a program keeps to whatever the other calls do in between: it finds the
  tables as sound as it leaves them, writes at most once, and what it writes is what its call is for
  (`Call.Writes`).
* `Call.safe`: the program of every call is safe.
* `service_runs`: what holds after every run.
-/

namespace CampaignFetch

/-! ## Calls -/

/-- A call of one of the services. -/
inductive Call where
  | createCampaign (new : NewCampaign)
  | getCampaign (id : Int)
  | updateCampaign (id : Int) (change : CampaignUpdate)
  | deleteCampaign (id : Int)
  | createAdGroup (new : NewAdGroup)
  | getAdGroup (id : Int)
  | updateAdGroup (id : Int) (change : AdGroupUpdate)
  | deleteAdGroup (id : Int)
  | liveAdGroups (ksName : String)

/-- The program of a service without what it gives. -/
def Service.program {α : Type} (s : Service α) : Program Unit := s.run.bind fun _ => .done ()

/-- The program of a call. -/
def Call.program : Call → Program Unit
  | .createCampaign new => (Campaigns.create new).program
  | .getCampaign id => (Campaigns.get id).program
  | .updateCampaign id change => (Campaigns.update id change).program
  | .deleteCampaign id => (Campaigns.delete id).program
  | .createAdGroup new => (AdGroups.create new).program
  | .getAdGroup id => (AdGroups.get id).program
  | .updateAdGroup id change => (AdGroups.update id change).program
  | .deleteAdGroup id => (AdGroups.delete id).program
  | .liveAdGroups ksName => (AdGroups.live ksName).program

/-- The columns that a new campaign gives values to. -/
def NewCampaign.values (new : NewCampaign) : List (Column × Cell) :=
  [(.campaignName, .text new.name), (.campaignKsName, .ofText? new.ksName),
    (.campaignStatus, .text new.status.text)]

/-- The columns that a change of a campaign gives values to. -/
def CampaignUpdate.values (change : CampaignUpdate) : List (Column × Cell) :=
  [(.campaignName, .text change.name), (.campaignKsName, .ofText? change.ksName),
    (.campaignStatus, .text change.status.text)]

/-- The columns that a new ad group gives values to. -/
def NewAdGroup.values (new : NewAdGroup) : List (Column × Cell) :=
  [(.adGroupCampaignId, .int new.campaignId), (.adGroupName, .text new.name),
    (.adGroupStatus, .text new.status.text)]

/-- The columns that a change of an ad group gives values to. -/
def AdGroupUpdate.values (change : AdGroupUpdate) : List (Column × Cell) :=
  [(.adGroupName, .text change.name), (.adGroupStatus, .text change.status.text)]

/-- The column that deleting gives a value to. -/
def Kind.deletedValues (kind : Kind) : List (Column × Cell) :=
  [(kind.statusColumn, .text Status.deleted.text)]

/-- What a call does when it writes. -/
def Call.Writes (call : Call) (t t' : Tables) : Prop :=
  match call with
  | .createCampaign new => t.Creates t' .campaign new.values
  | .updateCampaign id change => t.Changes t' .campaign id change.values
  | .deleteCampaign id => t.Changes t' .campaign id Kind.campaign.deletedValues
  | .createAdGroup new => t.Creates t' .adGroup new.values
  | .updateAdGroup id change => t.Changes t' .adGroup id change.values
  | .deleteAdGroup id => t.Changes t' .adGroup id Kind.adGroup.deletedValues
  | .getCampaign _ | .getAdGroup _ | .liveAdGroups _ => False

/-! ## Runs -/

/-- A statement of a call was executed. -/
structure Event where
  /-- The number of the call. -/
  caller : Nat
  before : Tables
  after : Tables

/-- What the calls can get to, one statement at a time: what was executed, the tables, and the rest
of every call. -/
inductive Reachable (calls : List Call) : List Event → Tables → List (Program Unit) → Prop
  | start : Reachable calls [] .empty (calls.map Call.program)
  | execute {log t running i s next reply t'} (hReachable : Reachable calls log t running)
      (hNext : running[i]? = some (.execute s next)) (hExecutes : s.Executes t reply t') :
      Reachable calls (log ++ [⟨i, t, t'⟩]) t' (running.set i (next reply))
  | join {log t running i q next reply} (hReachable : Reachable calls log t running)
      (hNext : running[i]? = some (.join q next)) :
      Reachable calls log t (running.set i (next reply))

/-! ## Programs among others -/

namespace Program

variable {α β ε ε' : Type}

/-- Nothing that the program asks changes the tables. -/
def Quiet : Program α → Prop
  | done _ => True
  | execute s next =>
    (∀ t reply t', s.Executes t reply t' → t' = t) ∧ ∀ reply, (next reply).Quiet
  | join _ next => ∀ reply, (next reply).Quiet

/-- From the tables on, while others add to them, the program writes at most once, and then it
writes so and leaves the tables sound. -/
def Safe (Writes : Tables → Tables → Prop) : Program α → Tables → Prop
  | done _, _ => True
  | execute s next, t => ∀ t₁, t.KeptIn t₁ → t₁.Sound → ∀ reply t₂, s.Executes t₁ reply t₂ →
      (t₂ = t₁ ∧ (next reply).Safe Writes t₁) ∨
        (Writes t₁ t₂ ∧ t₂.Sound ∧ t₁.KeptIn t₂ ∧ (next reply).Quiet)
  | join _ next, t => ∀ reply, (next reply).Safe Writes t

variable {Writes : Tables → Tables → Prop} {t t' : Tables}

theorem Safe.mono {p : Program α} (h : p.Safe Writes t) (hKept : t.KeptIn t') :
    p.Safe Writes t' := by
  induction p with
  | done a => trivial
  | execute s next => exact fun t₁ hKept' => h t₁ (hKept.trans hKept')
  | join q next ih => exact fun reply => ih reply (h reply)

theorem Quiet.safe {p : Program α} (h : p.Quiet) (t : Tables) : p.Safe Writes t := by
  induction p generalizing t with
  | done a => trivial
  | execute s next ih =>
    intro t₁ _ _ reply t₂ hExecutes
    exact .inl ⟨h.1 _ _ _ hExecutes, ih reply (h.2 reply) t₁⟩
  | join q next ih => exact fun reply => ih reply (h reply) t

theorem Quiet.bind {p : Program α} {f : α → Program β} (h : p.Quiet) (hNext : ∀ a, (f a).Quiet) :
    (p.bind f).Quiet := by
  induction p with
  | done a => exact hNext a
  | execute s next ih => exact ⟨h.1, fun reply => ih reply (h.2 reply)⟩
  | join q next ih => exact fun reply => ih reply (h reply)

/-- What comes after a safe program may ask but not write. -/
theorem Safe.bind {p : Program α} {f : α → Program β} (h : p.Safe Writes t)
    (hNext : ∀ a, (f a).Quiet) : (p.bind f).Safe Writes t := by
  induction p generalizing t with
  | done a => exact (hNext a).safe t
  | execute s next ih =>
    intro t₁ hKept hSound reply t₂ hExecutes
    rcases h t₁ hKept hSound reply t₂ hExecutes with
      ⟨hSame, hSafe⟩ | ⟨hWrites, hLeft, hKept', hQuiet⟩
    · exact .inl ⟨hSame, ih reply hSafe⟩
    · exact .inr ⟨hWrites, hLeft, hKept', hQuiet.bind hNext⟩
  | join q next ih => exact fun reply => ih reply (h reply)

/-! ### Programs that can fail -/

theorem quiet_bind {p : ExceptT ε Program α} {f : α → ExceptT ε Program β} (h : p.run.Quiet)
    (hNext : ∀ a, (f a).run.Quiet) : (p >>= f).run.Quiet := by
  refine Quiet.bind h fun x => ?_
  cases x with
  | ok a => exact hNext a
  | error e => trivial

theorem safe_bind {p : ExceptT ε Program α} {f : α → ExceptT ε Program β}
    (h : p.run.Safe Writes t) (hNext : ∀ a, (f a).run.Quiet) : (p >>= f).run.Safe Writes t := by
  refine Safe.bind h fun x => ?_
  cases x with
  | ok a => exact hNext a
  | error e => trivial

theorem safe_adapt {f : ε → ε'} {p : ExceptT ε Program α} (h : p.run.Safe Writes t) :
    (ExceptT.adapt f p).run.Safe Writes t := Safe.bind h fun _ => trivial

end Program

namespace Access

variable {α : Type} {Writes : Tables → Tables → Prop} {t : Tables} {s : Statement}

theorem quiet_all {decode : Cells → Decoded α} (h : ∀ t reply t', s.Executes t reply t' → t' = t) :
    (all decode s).run.Quiet :=
  Program.quiet_bind ⟨h, fun _ => trivial⟩ fun _ => trivial

theorem safe_first? {decode : Cells → Decoded α} (h : (Program.ask s).run.Safe Writes t) :
    (first? decode s).run.Safe Writes t := by
  refine Program.safe_bind h fun rows => ?_
  cases rows <;> trivial

theorem safe_one {decode : Cells → Decoded α} (h : (Program.ask s).run.Safe Writes t) :
    (one decode s).run.Safe Writes t := by
  refine Program.safe_bind (safe_first? h) fun x => ?_
  cases x <;> trivial

end Access

/-! ## Statements of the calls -/

namespace Program

variable {Writes : Tables → Tables → Prop} {t : Tables} {s : Statement}

/-- One statement is safe when it does nothing or writes what may be written. -/
theorem safe_ask (h : ∀ t₁ reply t₂, t.KeptIn t₁ → t₁.Sound → s.Executes t₁ reply t₂ →
      t₂ = t₁ ∨ (Writes t₁ t₂ ∧ t₂.Sound ∧ t₁.KeptIn t₂)) :
    (Program.ask s).run.Safe Writes t := by
  intro t₁ hKept hSound reply t₂ hExecutes
  rcases h t₁ reply t₂ hKept hSound hExecutes with hSame | ⟨hWrites, hSound', hKept'⟩
  · exact .inl ⟨hSame, trivial⟩
  · exact .inr ⟨hWrites, hSound', hKept', trivial⟩

open Sql in
/-- A statement that adds a row is safe when the row may stand in its place in all tables that the
present ones can grow to. -/
theorem safe_creates {kind : Kind} {columns : List Column} {operands : List Operand}
    {returned : List Column} (values : List (Column × Cell))
    (hText : Command.ofText? s.sql = some (.insert kind columns operands returned))
    (hValues : ∀ now, values? s.params now (columns.zip operands) = some values)
    (hValid : ∀ t₁, t.KeptIn t₁ →
      ∀ id now, ((Record.fresh kind id now).setAll values).Valid t₁ kind id) :
    (Program.ask s).run.Safe (fun t t' => t.Creates t' kind values) t := by
  refine safe_ask fun t₁ reply t₂ hKept hSound hExecutes => ?_
  exact (hExecutes.creates values hText hValues).imp_right fun hCreates =>
    ⟨hCreates, hSound.creates hCreates (hValid t₁ hKept)⟩

open Sql in
/-- A statement that changes a row is safe when it spares the fixed columns and leaves a name and a
status. -/
theorem safe_changes {kind : Kind} {assignments : List (Column × Operand)} {key : Operand}
    {returned : List Column} (id : Int) (values : List (Column × Cell))
    (hText : Command.ofText? s.sql = some (.update kind assignments key returned))
    (hKey : ∀ now, key.cell? s.params now = some (.int id))
    (hValues : ∀ now, values? s.params now assignments =
      some (values ++ [(kind.updatedColumn, .text now)]))
    (hColumns : ∀ c ∈ kind.fixedColumns, c ∉ values.map (·.1))
    (hGiven : ∀ t₁ (r r' : Record) now, r.Valid t₁ kind id →
      r' = r.setAll (values ++ [(kind.updatedColumn, .text now)]) →
      (∃ name, r' kind.nameColumn = .text name ∧ Text.isBlankText name = false) ∧
        ∃ status : Status, r' kind.statusColumn = .text status.text) :
    (Program.ask s).run.Safe (fun t t' => t.Changes t' kind id values) t := by
  refine safe_ask fun t₁ reply t₂ _ hSound hExecutes => ?_
  exact (hExecutes.changes id values hText hKey hValues).imp_right fun hChanges =>
    ⟨hChanges, hSound.changes hChanges hColumns (hGiven t₁)⟩

end Program

theorem safe_createCampaign {new : NewCampaign} (hName : Text.isBlankText new.name = false)
    (t : Tables) : (CampaignTable.create new).run.Safe (Call.createCampaign new).Writes t := by
  refine Access.safe_one (Program.safe_creates new.values Sql.Command.ofText?_insertCampaign
    (fun now => ?_) fun t₁ _ id now => ?_)
  · simp [Sql.values?, Sql.Operand.cell?, NewCampaign.values]
  · exact ⟨rfl, ⟨new.name, rfl, hName⟩, ⟨new.status, rfl⟩, fun hKind => by cases hKind⟩

/-- The campaign that a new ad group refers to has to be there before. -/
theorem safe_createAdGroup {new : NewAdGroup} (hName : Text.isBlankText new.name = false)
    {t : Tables} (hCampaign : (t .campaign new.campaignId).isSome = true) :
    (AdGroupTable.create new).run.Safe (Call.createAdGroup new).Writes t := by
  refine Access.safe_one (Program.safe_creates new.values Sql.Command.ofText?_insertAdGroup
    (fun now => ?_) fun t₁ hKept id now => ?_)
  · simp [Sql.values?, Sql.Operand.cell?, NewAdGroup.values]
  · exact ⟨rfl, ⟨new.name, rfl, hName⟩, ⟨new.status, rfl⟩,
      fun _ => ⟨new.campaignId, rfl, hKept.isSome hCampaign⟩⟩

theorem safe_updateCampaign {id : Int} {change : CampaignUpdate}
    (hName : Text.isBlankText change.name = false) (t : Tables) :
    (CampaignTable.update? id change).run.Safe (Call.updateCampaign id change).Writes t := by
  have hColumns : ∀ c ∈ Kind.campaign.fixedColumns,
      c ∉ [Column.campaignName, .campaignKsName, .campaignStatus] := by decide
  refine Access.safe_first? (Program.safe_changes id change.values
    Sql.Command.ofText?_updateCampaign (fun now => rfl) (fun now => ?_) hColumns
    fun t₁ r r' now _ hRow => ?_)
  · simp [Sql.values?, Sql.Operand.cell?, CampaignUpdate.values, Kind.updatedColumn]
  · subst hRow
    exact ⟨⟨change.name, rfl, hName⟩, change.status, rfl⟩

theorem safe_updateAdGroup {id : Int} {change : AdGroupUpdate}
    (hName : Text.isBlankText change.name = false) (t : Tables) :
    (AdGroupTable.update? id change).run.Safe (Call.updateAdGroup id change).Writes t := by
  have hColumns : ∀ c ∈ Kind.adGroup.fixedColumns,
      c ∉ [Column.adGroupName, .adGroupStatus] := by decide
  refine Access.safe_first? (Program.safe_changes id change.values
    Sql.Command.ofText?_updateAdGroup (fun now => rfl) (fun now => ?_) hColumns
    fun t₁ r r' now _ hRow => ?_)
  · simp [Sql.values?, Sql.Operand.cell?, AdGroupUpdate.values, Kind.updatedColumn]
  · subst hRow
    exact ⟨⟨change.name, rfl, hName⟩, change.status, rfl⟩

/-- Deleting keeps the name. -/
theorem safe_markDeleted {α : Type} (decode : Cells → Decoded α) (kind : Kind) (id : Int)
    (t : Tables) : (Access.first? decode (kind.markDeleted id)).run.Safe
      (fun t t' => t.Changes t' kind id kind.deletedValues) t := by
  have hColumns : ∀ c ∈ kind.fixedColumns, c ∉ [kind.statusColumn] := by cases kind <;> decide
  refine Access.safe_first? (Program.safe_changes id kind.deletedValues
    (Sql.Command.ofText?_markDeleted kind id) (fun now => rfl) (fun now => ?_) hColumns
    fun t₁ r r' now hValid hRow => ?_)
  · simp [Sql.values?, Sql.Operand.cell?, Kind.markDeleted, Kind.deletedValues]
  · subst hRow
    obtain ⟨name, hName, hBlank⟩ := hValid.name
    cases kind with
    | campaign => exact ⟨⟨name, hName, hBlank⟩, .deleted, rfl⟩
    | adGroup => exact ⟨⟨name, hName, hBlank⟩, .deleted, rfl⟩

/-! ## Services -/

namespace Service

variable {α : Type} {Writes : Tables → Tables → Prop} {t : Tables}

/-- What comes after the check of a name may rely on the name. -/
theorem safe_requireName {name : String} {next : Service α}
    (h : Text.isBlankText name = false → next.run.Safe Writes t) :
    (requireName name >>= fun _ => next).run.Safe Writes t := by
  unfold requireName
  cases hName : Text.isBlankText name with
  | true => trivial
  | false => exact h hName

theorem safe_found {kind : Kind} {id : Int} {a : Access (Option α)}
    (h : a.run.Safe Writes t) : (found kind id a).run.Safe Writes t := by
  refine Program.safe_bind (Program.safe_adapt h) fun entity => ?_
  cases entity <;> trivial

/-- Looking for a row by its identity. -/
theorem safe_get {decode : Cells → Decoded α} (kind : Kind) (id : Int) :
    (found kind id (.first? decode (kind.selectById id))).run.Safe Writes t := by
  refine safe_found (Access.safe_first? (Program.safe_ask fun t₁ reply t₂ _ _ hExecutes => ?_))
  exact .inl (hExecutes.select id (Sql.Command.ofText?_selectById kind id) fun now => rfl).1

/-- What comes after looking for a row may rely on a row that was found. -/
theorem safe_bind_find {β : Type} {decode : Cells → Decoded α} {kind : Kind} {id : Int}
    {f : Option α → Service β} (hNone : (f none).run.Safe Writes t)
    (hSome : ∀ entity t₁, (t₁ kind id).isSome = true → (f (some entity)).run.Safe Writes t₁) :
    (ofAccess (.first? decode (kind.selectById id)) >>= f).run.Safe Writes t := by
  intro t₁ hKept _ reply t₂ hExecutes
  obtain ⟨hSame, hFound⟩ := hExecutes.select id
    (Sql.Command.ofText?_selectById kind id) fun now => rfl
  refine .inl ⟨hSame, ?_⟩
  -- What comes after sees no more of the reply than whether a row was decoded.
  match reply, hFound with
  | .error fault, _ => trivial
  | .ok [], _ => exact hNone.mono hKept
  | .ok (cells :: rows), hFound =>
    have hDecoded : ∀ d : Decoded α,
        (ofAccess (.ofDecoded (d.map some)) >>= f).run.Safe Writes t₁ := by
      intro d
      cases d with
      | error fault => trivial
      | ok entity => exact hSome entity t₁ (hFound cells rows rfl)
    exact hDecoded (decode cells)

end Service

theorem quiet_findLive (ksName : String) : (AdGroupTable.findLive ksName).run.Quiet := by
  refine Program.quiet_bind (Access.quiet_all fun t reply t' hExecutes =>
    hExecutes.query (Sql.Command.ofText?_selectLive ksName)) fun groups => ?_
  refine Program.quiet_bind ?_ fun campaigns => trivial
  unfold CampaignTable.findAll
  split
  · trivial
  · exact Access.quiet_all fun t reply t' hExecutes =>
      hExecutes.query Sql.Command.ofText?_selectAll

/-- The campaign is looked for first. If it is there, it still is when the ad group is added. -/
theorem safe_adGroupsCreate (new : NewAdGroup) (t : Tables) :
    (AdGroups.create new).run.Safe (Call.createAdGroup new).Writes t := by
  refine Service.safe_requireName fun hName => ?_
  refine Service.safe_bind_find trivial fun campaign t₁ hCampaign => ?_
  exact Program.safe_adapt (safe_createAdGroup hName hCampaign)

/-- The program of every call is safe. -/
theorem Call.safe (call : Call) (t : Tables) : call.program.Safe call.Writes t := by
  cases call with
  | createCampaign new =>
    refine Program.Safe.bind (Service.safe_requireName fun hName => ?_) fun _ => trivial
    exact Program.safe_adapt (safe_createCampaign hName t)
  | getCampaign id => exact (Service.safe_get .campaign id).bind fun _ => trivial
  | updateCampaign id change =>
    refine Program.Safe.bind (Service.safe_requireName fun hName => ?_) fun _ => trivial
    exact Service.safe_found (safe_updateCampaign hName t)
  | deleteCampaign id =>
    exact (Service.safe_found (safe_markDeleted _ .campaign id t)).bind fun _ => trivial
  | createAdGroup new => exact (safe_adGroupsCreate new t).bind fun _ => trivial
  | getAdGroup id => exact (Service.safe_get .adGroup id).bind fun _ => trivial
  | updateAdGroup id change =>
    refine Program.Safe.bind (Service.safe_requireName fun hName => ?_) fun _ => trivial
    exact Service.safe_found (safe_updateAdGroup hName t)
  | deleteAdGroup id =>
    exact (Service.safe_found (safe_markDeleted _ .adGroup id t)).bind fun _ => trivial
  | liveAdGroups ksName =>
    exact (Program.safe_adapt ((quiet_findLive ksName).safe t)).bind fun _ => trivial

/-! ## Invariant of runs -/

/-- What is left of the call with the number. If the call has not written yet, this is safe from
here on; otherwise it is quiet. -/
def Pending (calls : List Call) (log : List Event) (t : Tables) (i : Nat) (p : Program Unit) :
    Prop :=
  p.Quiet ∨ ∃ call, calls[i]? = some call ∧ p.Safe call.Writes t ∧
    ∀ e ∈ log, e.caller = i → e.before = e.after

/-- What holds all along a run. -/
structure Consistent (calls : List Call) (log : List Event) (t : Tables)
    (running : List (Program Unit)) : Prop where
  sound : t.Sound
  kept : ∀ e ∈ log, e.after.KeptIn t
  writes : ∀ e ∈ log, e.before = e.after ∨
    ∃ call, calls[e.caller]? = some call ∧ call.Writes e.before e.after
  once : log.Pairwise fun e e' => e.caller = e'.caller → e.before = e.after ∨ e'.before = e'.after
  pending : ∀ i p, running[i]? = some p → Pending calls log t i p

section

variable {calls : List Call} {log : List Event} {t t' : Tables} {running : List (Program Unit)}
  {i : Nat}

/-- Another call's statement. -/
theorem Pending.other {p : Program Unit} {e : Event} (h : Pending calls log t i p)
    (hKept : t.KeptIn t') (hOther : e.caller ≠ i) : Pending calls (log ++ [e]) t' i p := by
  refine h.imp_right fun ⟨call, hCall, hSafe, hFirst⟩ => ⟨call, hCall, hSafe.mono hKept, ?_⟩
  intro e' hMem hCaller
  rcases List.mem_append.mp hMem with hOld | hNew
  · exact hFirst e' hOld hCaller
  · rw [List.mem_singleton.mp hNew] at hCaller
    exact absurd hCaller hOther

/-- A statement of the call that changes nothing. -/
theorem Pending.idle {p : Program Unit} (h : Pending calls log t i p) :
    Pending calls (log ++ [⟨i, t, t⟩]) t i p := by
  refine h.imp_right fun ⟨call, hCall, hSafe, hFirst⟩ => ⟨call, hCall, hSafe, ?_⟩
  intro e' hMem hCaller
  rcases List.mem_append.mp hMem with hOld | hNew
  · exact hFirst e' hOld hCaller
  · rw [List.mem_singleton.mp hNew]

/-- A statement of a pending call changes nothing, or it is the only write of the call. -/
theorem Pending.execute {s : Statement} {next : Reply → Program Unit} {reply : Reply}
    (h : Pending calls log t i (.execute s next)) (hSound : t.Sound)
    (hExecutes : s.Executes t reply t') :
    (t' = t ∧ Pending calls log t i (next reply)) ∨
      ((∃ call, calls[i]? = some call ∧ call.Writes t t') ∧ t'.Sound ∧ t.KeptIn t' ∧
        (next reply).Quiet ∧ ∀ e ∈ log, e.caller = i → e.before = e.after) := by
  rcases h with hQuiet | ⟨call, hCall, hSafe, hFirst⟩
  · exact .inl ⟨hQuiet.1 t reply t' hExecutes, .inl (hQuiet.2 reply)⟩
  · rcases hSafe t (.refl t) hSound reply t' hExecutes with
      ⟨hSame, hNext⟩ | ⟨hWrites, hLeft, hKept, hQuiet⟩
    · exact .inl ⟨hSame, .inr ⟨call, hCall, hNext, hFirst⟩⟩
    · exact .inr ⟨⟨call, hCall, hWrites⟩, hLeft, hKept, hQuiet, hFirst⟩

theorem Pending.join {q : JoinQuery} {next : JoinReply → Program Unit}
    (h : Pending calls log t i (.join q next)) (reply : JoinReply) :
    Pending calls log t i (next reply) :=
  h.imp (fun hQuiet => hQuiet reply) fun ⟨call, hCall, hSafe, hFirst⟩ =>
    ⟨call, hCall, hSafe reply, hFirst⟩

/-- After one program went on, another place of the list holds what it held. -/
theorem eq_or_getElem?_of_set {α : Type} {as : List α} {i j : Nat} {a b : α}
    (h : (as.set i a)[j]? = some b) : (i = j ∧ a = b) ∨ (i ≠ j ∧ as[j]? = some b) := by
  by_cases hHere : i = j
  · rw [List.getElem?_set, if_pos hHere] at h
    split at h
    · exact .inl ⟨hHere, Option.some.inj h⟩
    · cases h
  · exact .inr ⟨hHere, (List.getElem?_set_ne hHere).symm.trans h⟩

namespace Consistent

/-- The run goes on with a statement of a call. -/
theorem append (h : Consistent calls log t running) {next : Program Unit} (hSound : t'.Sound)
    (hKept : t.KeptIn t')
    (hWrites : t = t' ∨ ∃ call, calls[i]? = some call ∧ call.Writes t t')
    (hOnce : t = t' ∨ ∀ e ∈ log, e.caller = i → e.before = e.after)
    (hNext : Pending calls (log ++ [⟨i, t, t'⟩]) t' i next) :
    Consistent calls (log ++ [⟨i, t, t'⟩]) t' (running.set i next) where
  sound := hSound
  kept e hMem := by
    rcases List.mem_append.mp hMem with hOld | hNew
    · exact (h.kept e hOld).trans hKept
    · rw [List.mem_singleton.mp hNew]
      exact .refl t'
  writes e hMem := by
    rcases List.mem_append.mp hMem with hOld | hNew
    · exact h.writes e hOld
    · rw [List.mem_singleton.mp hNew]
      exact hWrites
  once := by
    refine List.pairwise_append.mpr ⟨h.once, List.pairwise_singleton _ _, ?_⟩
    intro e hOld e' hNew hCaller
    rw [List.mem_singleton.mp hNew] at hCaller ⊢
    exact hOnce.symm.imp_left fun hFirst => hFirst e hOld hCaller
  pending j p hRead := by
    rcases eq_or_getElem?_of_set hRead with ⟨rfl, rfl⟩ | ⟨hOther, hOld⟩
    · exact hNext
    · exact (h.pending j p hOld).other hKept hOther

theorem execute (h : Consistent calls log t running) {s : Statement}
    {next : Reply → Program Unit} {reply : Reply} (hNext : running[i]? = some (.execute s next))
    (hExecutes : s.Executes t reply t') :
    Consistent calls (log ++ [⟨i, t, t'⟩]) t' (running.set i (next reply)) := by
  -- Either nothing changes and the call stays as it is, or this is its write and it is quiet now.
  rcases (h.pending i _ hNext).execute h.sound hExecutes with
    ⟨rfl, hPending⟩ | ⟨hWrites, hSound, hKept, hQuiet, hFirst⟩
  · exact h.append h.sound (.refl t') (.inl rfl) (.inl rfl) hPending.idle
  · exact h.append hSound hKept (.inr hWrites) (.inr hFirst) (.inl hQuiet)

theorem join (h : Consistent calls log t running) {q : JoinQuery}
    {next : JoinReply → Program Unit} {reply : JoinReply}
    (hNext : running[i]? = some (.join q next)) :
    Consistent calls log t (running.set i (next reply)) where
  sound := h.sound
  kept := h.kept
  writes := h.writes
  once := h.once
  pending j p hRead := by
    rcases eq_or_getElem?_of_set hRead with ⟨rfl, rfl⟩ | ⟨-, hOld⟩
    · exact (h.pending i _ hNext).join reply
    · exact h.pending j p hOld

theorem start (hSound : t.Sound) (calls : List Call) :
    Consistent calls [] t (calls.map Call.program) where
  sound := hSound
  kept e hMem := by cases hMem
  writes e hMem := by cases hMem
  once := .nil
  pending i p hRead := by
    rw [List.getElem?_map, Option.map_eq_some_iff] at hRead
    obtain ⟨call, hCall, rfl⟩ := hRead
    exact .inr ⟨call, hCall, call.safe t, fun e hMem => by cases hMem⟩

end Consistent

end

theorem Reachable.consistent {calls : List Call} {log : List Event} {t : Tables}
    {running : List (Program Unit)} (h : Reachable calls log t running) :
    Consistent calls log t running := by
  induction h with
  | start => exact .start Tables.sound_empty calls
  | execute _ hNext hExecutes ih => exact ih.execute hNext hExecutes
  | join _ hNext ih => exact ih.join hNext

/-- After any run, every row may stand in its place, every row that there ever was is still there
with its fixed columns, and a call wrote once at most: what it is for. -/
theorem service_runs {calls : List Call} {log : List Event} {t : Tables}
    {running : List (Program Unit)} (h : Reachable calls log t running) :
    t.Sound ∧ (∀ e ∈ log, e.after.KeptIn t) ∧
      (∀ e ∈ log, e.before = e.after ∨
        ∃ call, calls[e.caller]? = some call ∧ call.Writes e.before e.after) ∧
      log.Pairwise fun e e' =>
        e.caller = e'.caller → e.before = e.after ∨ e'.before = e'.after :=
  ⟨h.consistent.sound, h.consistent.kept, h.consistent.writes, h.consistent.once⟩

/-- A campaign and an ad group are made and changed, and the campaign is deleted. -/
def sampleCalls : List Call :=
  [.createCampaign ⟨"Brand", none, .active⟩, .createAdGroup ⟨1, "Search", .paused⟩,
    .deleteCampaign 1, .updateCampaign 1 ⟨"Label", some "core", .paused⟩,
    .updateAdGroup 1 ⟨"Display", .active⟩]

def sampleCampaign : Record :=
  (Record.fresh .campaign 1 "2024-01-15T09:30:00").setAll
    (NewCampaign.values ⟨"Brand", none, .active⟩)

def sampleRenamed : Record :=
  sampleCampaign.setAll
    (CampaignUpdate.values ⟨"Label", some "core", .paused⟩ ++
      [(.campaignLastUpdated, .text "2024-01-15T09:30:01")])

def sampleDeleted : Record :=
  sampleRenamed.setAll
    (Kind.campaign.deletedValues ++ [(.campaignLastUpdated, .text "2024-01-15T09:30:02")])

def sampleAdGroup : Record :=
  (Record.fresh .adGroup 1 "2024-01-15T09:30:03").setAll
    (NewAdGroup.values ⟨1, "Search", .paused⟩)

def sampleChanged : Record :=
  sampleAdGroup.setAll
    (AdGroupUpdate.values ⟨"Display", .active⟩ ++
      [(.adGroupLastUpdated, .text "2024-01-15T09:30:04")])

/-- The campaign is changed and deleted between the time when it is looked for and the time when the
ad group is added to it. Then the ad group is changed. -/
theorem service_runs_interleaved :
    (∃ log t running, Reachable sampleCalls log t running ∧
      log.map (·.caller) = [0, 1, 3, 2, 1, 4] ∧
      log.map (fun e => e.after .campaign 1) =
        [some sampleCampaign, some sampleCampaign, some sampleRenamed, some sampleDeleted,
          some sampleDeleted, some sampleDeleted] ∧
      log.map (fun e => e.after .adGroup 1) =
        [none, none, none, none, some sampleAdGroup, some sampleChanged] ∧
      t .campaign 1 = some sampleDeleted ∧ t .adGroup 1 = some sampleChanged ∧
      t.Sound ∧ (∀ e ∈ log, e.after.KeptIn t)) ∧
      Kind.campaign.columns.map sampleRenamed =
        [.int 1, .text "Label", .text "core", .text "PAUSED", .text "2024-01-15T09:30:00",
          .text "2024-01-15T09:30:01"] ∧
      Kind.campaign.columns.map sampleDeleted =
        [.int 1, .text "Label", .text "core", .text "DELETED", .text "2024-01-15T09:30:00",
          .text "2024-01-15T09:30:02"] ∧
      Kind.adGroup.columns.map sampleChanged =
        [.int 1, .int 1, .text "Display", .text "ACTIVE", .text "2024-01-15T09:30:03",
          .text "2024-01-15T09:30:04"] := by
  have hKey : Sql.Operand.cell? [.int 1] "2024-01-15T09:30:01" (.param 1) = some (.int 1) := rfl
  have hRenamedKey : Sql.Operand.cell? [.text "Label", .text "core", .text "PAUSED", .int 1]
      "2024-01-15T09:30:01" (.param 4) = some (.int 1) := rfl
  have hDeletedKey : Sql.Operand.cell? [.text "DELETED", .int 1] "2024-01-15T09:30:02" (.param 2) =
      some (.int 1) := rfl
  have hChangedKey : Sql.Operand.cell? [.text "Display", .text "ACTIVE", .int 1]
      "2024-01-15T09:30:04" (.param 3) = some (.int 1) := rfl
  have hMade : Reachable sampleCalls _ (Tables.empty.set .campaign 1 sampleCampaign) _ :=
    Reachable.start.execute (i := 0) rfl
      (.ran Sql.Command.ofText?_insertCampaign (.insert rfl rfl rfl))
  have hFound := hMade.execute (i := 1) rfl
    (.ran (Sql.Command.ofText?_selectById .campaign 1) (.select hKey rfl))
  have hRenamed : Reachable sampleCalls _ (Tables.set _ .campaign 1 sampleRenamed) _ :=
    hFound.execute (i := 3) rfl
      (.ran Sql.Command.ofText?_updateCampaign (.update hRenamedKey rfl rfl))
  have hDeleted : Reachable sampleCalls _ (Tables.set _ .campaign 1 sampleDeleted) _ :=
    hRenamed.execute (i := 2) rfl
      (.ran (Sql.Command.ofText?_markDeleted .campaign 1) (.update hDeletedKey rfl rfl))
  have hAdded : Reachable sampleCalls _ (Tables.set _ .adGroup 1 sampleAdGroup) _ :=
    hDeleted.execute (i := 1) rfl (.ran Sql.Command.ofText?_insertAdGroup (.insert rfl rfl rfl))
  have hChanged : Reachable sampleCalls _ (Tables.set _ .adGroup 1 sampleChanged) _ :=
    hAdded.execute (i := 4) rfl
      (.ran Sql.Command.ofText?_updateAdGroup (.update hChangedKey rfl rfl))
  obtain ⟨hSound, hKept, -⟩ := service_runs hChanged
  exact ⟨⟨_, _, _, hChanged, rfl, rfl, rfl, rfl, rfl, hSound, hKept⟩, rfl, rfl, rfl⟩

end CampaignFetch

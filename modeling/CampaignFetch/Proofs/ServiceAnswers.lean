import CampaignFetch.Proofs.AttachedCampaigns
import CampaignFetch.Proofs.ServiceReplies
import CampaignFetch.Proofs.TrimmedText

/-!
# What services send and answer

Every call of a service against a database that replies as it likes: what is sent, up to where, and
what the call answers.

* `Call.service` is the program of a call with what it gives, `Call.steps` what it sends unless it
  meets a fault.
* `Call.Exact` relates the exchanges of a call to its answer, for each of the faults and for an
  answer without one.
* `service_exchanges`: every call is exact on every database.
-/

namespace CampaignFetch

/-! ## Calls -/

namespace Call

/-- The program of a call with what it gives. -/
def service : Call → Service Served
  | .createCampaign new => do return .campaign (← Campaigns.create new)
  | .getCampaign id => do return .campaign (← Campaigns.get id)
  | .updateCampaign id change => do return .campaign (← Campaigns.update id change)
  | .deleteCampaign id => do return .campaign (← Campaigns.delete id)
  | .createAdGroup new => do return .adGroup (← AdGroups.create new)
  | .getAdGroup id => do return .adGroup (← AdGroups.get id)
  | .updateAdGroup id change => do return .adGroup (← AdGroups.update id change)
  | .deleteAdGroup id => do return .adGroup (← AdGroups.delete id)
  | .liveAdGroups ksName => do return .adGroups (← AdGroups.live ksName)

/-- The name in the body of a call. -/
def name? : Call → Option String
  | .createCampaign new => some new.name
  | .updateCampaign _ change => some change.name
  | .createAdGroup new => some new.name
  | .updateAdGroup _ change => some change.name
  | _ => none

def BlankName (call : Call) : Prop := ∃ name, call.name? = some name ∧ Text.trim name = ""

/-- What a call gets, changes or deletes. -/
def target? : Call → Option (Kind × Int)
  | .getCampaign id | .updateCampaign id _ | .deleteCampaign id => some (.campaign, id)
  | .getAdGroup id | .updateAdGroup id _ | .deleteAdGroup id => some (.adGroup, id)
  | _ => none

/-- The values that a call may write. -/
def bound? : Call → Option (List Param)
  | .createCampaign new => some [.text new.name, .ofText? new.ksName, .text new.status.text]
  | .updateCampaign id change =>
    some [.text change.name, .ofText? change.ksName, .text change.status.text, .int id]
  | .createAdGroup new => some [.int new.campaignId, .text new.name, .text new.status.text]
  | .updateAdGroup id change => some [.text change.name, .text change.status.text, .int id]
  | .deleteCampaign id | .deleteAdGroup id => some [.text "DELETED", .int id]
  | .getCampaign _ | .getAdGroup _ | .liveAdGroups _ => none

/-- A statement that a call sends: its first word, and what is read from the reply. -/
structure Step where
  verb : String
  kind : Kind
  rows : RowsRead

/-- The statements of a call that meets no fault. -/
def steps : Call → List Step
  | .createCampaign _ => [⟨"INSERT", .campaign, .one⟩]
  | .getCampaign _ => [⟨"SELECT", .campaign, .first⟩]
  | .updateCampaign _ _ | .deleteCampaign _ => [⟨"UPDATE", .campaign, .first⟩]
  | .createAdGroup _ => [⟨"SELECT", .campaign, .first⟩, ⟨"INSERT", .adGroup, .one⟩]
  | .getAdGroup _ => [⟨"SELECT", .adGroup, .first⟩]
  | .updateAdGroup _ _ | .deleteAdGroup _ => [⟨"UPDATE", .adGroup, .first⟩]
  | .liveAdGroups _ => [⟨"SELECT", .adGroup, .all⟩, ⟨"SELECT", .campaign, .all⟩]

/-- The reply to the statement with the number fails. -/
def FailsAt (call : Call) (i : Nat) (reply : Reply) (fault : DatabaseFault) : Prop :=
  ∃ step, call.steps[i]? = some step ∧ reply.Fails step.kind.served step.rows fault

end Call

/-! ## The first word of a statement -/

namespace Statement

/-- The characters of the statement up to the first space. -/
def verb (s : Statement) : String := String.ofList (s.sql.toList.takeWhile (· ≠ ' '))

def Writes (s : Statement) : Prop := s.verb = "INSERT" ∨ s.verb = "UPDATE"

theorem not_writes {s : Statement} (h : s.verb = "SELECT") : ¬ s.Writes := by
  rw [Writes, h]
  decide

theorem verb_eq {s : Statement} {start rest : String} {word tail : List Char}
    (hText : s.sql = start ++ rest) (hStart : start = String.ofList (word ++ ' ' :: tail))
    (hWord : ∀ c ∈ word, c ≠ ' ') : s.verb = String.ofList word := by
  have hTake : (word ++ ' ' :: tail ++ rest.toList).takeWhile (fun c => c ≠ ' ') = word := by
    rw [List.append_assoc, List.cons_append, List.takeWhile_append_of_pos (by simpa using hWord)]
    simp
  rw [verb, hText, String.toList_append, hStart, String.toList_ofList, hTake]

theorem verb_selectById (kind : Kind) (id : Int) : (kind.selectById id).verb = "SELECT" := by
  have hText : (kind.selectById id).sql =
      "SELECT " ++ (kind.columnList ++ " FROM " ++ kind.table ++ " WHERE id = $1") := by
    simp only [Kind.selectById, String.append_assoc]
  exact verb_eq hText rfl (by simp)

theorem verb_markDeleted (kind : Kind) (id : Int) : (kind.markDeleted id).verb = "UPDATE" := by
  have hText : (kind.markDeleted id).sql = "UPDATE " ++ (kind.table ++
      " SET status = $1, last_updated = now() WHERE id = $2 RETURNING " ++ kind.columnList) := by
    simp only [Kind.markDeleted, String.append_assoc]
  exact verb_eq hText rfl (by simp)

theorem verb_selectLive (ksName : String) : (AdGroupTable.selectLive ksName).verb = "SELECT" :=
  verb_eq String.append_assoc rfl (by simp)

theorem verb_selectAll (ids : List Int) : (CampaignTable.selectAll ids).verb = "SELECT" :=
  verb_eq String.append_assoc rfl (by simp)

end Statement

/-! ## Exact calls -/

/-- What holds between the exchanges of a call and its answer. A call that ends with none of the
four faults has an answer. -/
structure Call.Exact (call : Call) (es : List Exchange) (x : Except ServiceFault Served) :
    Prop where
  invalid : ∀ field message, x = .error (.invalidField field message) ↔
    call.BlankName ∧ field = "name" ∧ message = "must not be blank"
  silent : call.BlankName → es = []
  planned : es.map (fun e => e.statement.verb) <+: call.steps.map Call.Step.verb
  /-- An ad group is added when its campaign was found. -/
  inserts : ∀ new, call = .createAdGroup new →
    ((∃ e ∈ es, e.statement.verb = "INSERT") ↔ ¬ call.BlankName ∧
      ∃ reply campaign, ⟨Kind.campaign.selectById new.campaignId, reply⟩ ∈ es ∧
        reply.first Campaign.ofCells = .ok (some campaign))
  missing : ∀ field, x = .error (.missingReference field) ↔ field = "campaign_id" ∧
    ∃ new, call = .createAdGroup new ∧
      ⟨Kind.campaign.selectById new.campaignId, .ok []⟩ ∈ es
  /-- What writes comes last and writes the arguments of the call. -/
  writes : ∀ i e, es[i]? = some e → e.statement.Writes →
    es.length = i + 1 ∧ call.bound? = some e.statement.params
  notFound : ∀ entity id, x = .error (.notFound entity id) ↔
    ∃ kind s, call.target? = some (kind, id) ∧ entity = kind.name ∧ es = [⟨s, .ok []⟩]
  fault : ∀ fault, x = .error (.database fault) ↔
    ∃ i e, es[i]? = some e ∧ call.FailsAt i e.reply fault
  /-- Nothing follows a failure. -/
  stops : ∀ i e, es[i]? = some e → ∀ fault, call.FailsAt i e.reply fault → es.length = i + 1
  row : ∀ served, x = .ok served → (∀ ksName, call ≠ .liveAdGroups ksName) →
    ∃ step s cells rest, call.steps.getLast? = some step ∧
      es.getLast? = some ⟨s, .ok (cells :: rest)⟩ ∧ step.kind.served cells = .ok served

/-! ## The four courses of calls -/

section

variable {β : Type} {P : Nat → β → Prop}

theorem exists_getElem?_cons {a : β} {l : List β} :
    (∃ i e, (a :: l)[i]? = some e ∧ P i e) ↔ P 0 a ∨ ∃ i e, l[i]? = some e ∧ P (i + 1) e := by
  constructor
  · rintro ⟨_ | i, e, he, hP⟩
    · cases he
      exact .inl hP
    · exact .inr ⟨i, e, he, hP⟩
  · rintro (hP | ⟨i, e, he, hP⟩)
    · exact ⟨0, a, rfl, hP⟩
    · exact ⟨i + 1, e, he, hP⟩

theorem forall_getElem?_cons {a : β} {l : List β} :
    (∀ i e, (a :: l)[i]? = some e → P i e) ↔ P 0 a ∧ ∀ i e, l[i]? = some e → P (i + 1) e := by
  constructor
  · intro h
    exact ⟨h 0 a rfl, fun i e he => h (i + 1) e he⟩
  · rintro ⟨hHead, hTail⟩ (_ | i) e he
    · cases he
      exact hHead
    · exact hTail i e he

end

namespace Call

variable {call : Call} {es : List Exchange} {x : Except ServiceFault Served}

theorem failsAt_iff {i : Nat} {step : Step} {reply : Reply} {fault : DatabaseFault}
    (h : call.steps[i]? = some step) :
    call.FailsAt i reply fault ↔ reply.Fails step.kind.served step.rows fault := by
  simp [FailsAt, h]

theorem not_blankName (h : call.name? = none) : ¬ call.BlankName := by
  rintro ⟨name, hName, -⟩
  rw [h] at hName
  cases hName

theorem exact_blank (hBlank : call.BlankName)
    (hx : x = .error (.invalidField "name" "must not be blank")) : call.Exact [] x := by
  subst hx
  constructor
  case invalid =>
    simp [hBlank, eq_comm]
  case silent =>
    simp
  case planned =>
    simp
  case inserts =>
    simp [hBlank]
  case missing =>
    simp
  case writes =>
    simp
  case notFound =>
    simp
  case fault =>
    simp
  case stops =>
    simp
  case row =>
    simp

/-- The call sends one statement, whatever it is. -/
theorem exact_single {step : Step} {s : Statement} {reply : Reply}
    (hName : ¬ call.BlankName) (hNew : ∀ new, call ≠ .createAdGroup new)
    (hSteps : call.steps = [step]) (hVerb : s.verb = step.verb)
    (hBound : s.Writes → call.bound? = some s.params)
    (hAnswers : Answers step.kind step.rows call.target? reply x) :
    call.Exact [⟨s, reply⟩] x := by
  have hFails : ∀ fault, call.FailsAt 0 reply fault ↔
      reply.Fails step.kind.served step.rows fault :=
    fun fault => failsAt_iff (by rw [hSteps]; rfl)
  constructor
  case invalid =>
    intro field message
    simp [hName, hAnswers.valid field message]
  case silent =>
    intro hBlank
    exact absurd hBlank hName
  case planned =>
    simp [hSteps, hVerb]
  case inserts =>
    intro new hCall
    exact absurd hCall (hNew new)
  case missing =>
    intro field
    simp [hNew, hAnswers.present field]
  case writes =>
    rw [forall_getElem?_cons]
    simpa using hBound
  case notFound =>
    intro entity id
    rw [hAnswers.notFound]
    simp
  case fault =>
    intro fault
    rw [hAnswers.fault, exists_getElem?_cons, hFails]
    simp
  case stops =>
    rw [forall_getElem?_cons]
    simp
  case row =>
    intro served hServed _
    obtain ⟨cells, rest, rfl, hCells⟩ := hAnswers.row served hServed
    exact ⟨step, s, cells, rest, by rw [hSteps]; rfl, rfl, hCells⟩

/-- The name is checked before anything else is done. -/
theorem exact_named {α : Type} {name : String} {p : Service α} {f : α → Served}
    (h : (do return f (← Service.requireName name >>= fun _ => p) : Service Served).run.Plays es x)
    (hName : call.name? = some name)
    (hRest : ∀ y, ¬ call.BlankName → p.run.Plays es y → call.Exact es (y.map f)) :
    call.Exact es x := by
  obtain ⟨y, hChecked, rfl⟩ := Program.Plays.of_map h
  rcases Program.Plays.of_requireName hChecked with ⟨hBlank, rfl, rfl⟩ | ⟨hBlank, hPlays⟩
  · exact exact_blank ⟨name, hName, Text.trim_eq_empty_iff.mpr hBlank⟩ rfl
  · refine hRest y ?_ hPlays
    rintro ⟨name', hName', hTrim⟩
    obtain rfl := Option.some.inj (hName.symm.trans hName')
    rw [Text.trim_eq_empty_iff.mp hTrim] at hBlank
    cases hBlank

/-- Something is looked for by one statement. -/
theorem exact_found {α : Type} {verb : String} {kind : Kind} {id : Int} {decode : Cells → Decoded α}
    {f : α → Served} {s : Statement} {y : Except ServiceFault α}
    (h : (Service.found kind id (.first? decode s)).run.Plays es y)
    (hServed : kind.served = fun cells => (decode cells).map f) (hName : ¬ call.BlankName)
    (hNew : ∀ new, call ≠ .createAdGroup new) (hTarget : call.target? = some (kind, id))
    (hSteps : call.steps = [⟨verb, kind, .first⟩]) (hVerb : s.verb = verb)
    (hBound : s.Writes → call.bound? = some s.params) : call.Exact es (y.map f) := by
  obtain ⟨reply, rfl, rfl⟩ := Program.Plays.of_found h
  refine exact_single hName hNew hSteps hVerb hBound ?_
  rw [← Service.answer_map, ← Reply.first_map, ← hServed, hTarget]
  exact answers_found id

section

variable {new : NewAdGroup} {reply : Reply}

theorem failsAt_lookup {fault : DatabaseFault} :
    FailsAt (.createAdGroup new) 0 reply fault ↔ reply.first Campaign.ofCells = .error fault := by
  rw [failsAt_iff rfl, Reply.first_eq_error_iff, ← Reply.fails_map (f := Served.campaign)]
  rfl

theorem failsAt_insert {fault : DatabaseFault} :
    FailsAt (.createAdGroup new) 1 reply fault ↔ reply.Fails Kind.adGroup.served .one fault := by
  rw [failsAt_iff rfl]

/-- The lookup of the campaign fails or finds none. -/
theorem exact_lookup (hName : ¬ BlankName (.createAdGroup new))
    (hx : (∃ fault, reply.first Campaign.ofCells = .error fault ∧ x = .error (.database fault)) ∨
      (reply = .ok [] ∧ x = .error (.missingReference "campaign_id"))) :
    Exact (.createAdGroup new) [⟨Kind.campaign.selectById new.campaignId, reply⟩] x := by
  have hVerb := Statement.verb_selectById .campaign new.campaignId
  -- either way no campaign was found, and nothing may be inserted
  have hNone : ∀ c, reply.first Campaign.ofCells ≠ .ok (some c) := by
    intro c hFound
    rcases hx with ⟨fault, hFault, -⟩ | ⟨rfl, -⟩
    · rw [hFault] at hFound
      cases hFound
    · cases hFound
  constructor
  case invalid =>
    intro field message
    rcases hx with ⟨fault, -, rfl⟩ | ⟨-, rfl⟩ <;> simp [hName]
  case silent =>
    intro hBlank
    exact absurd hBlank hName
  case planned =>
    simp [steps, hVerb]
  case inserts =>
    intro new' hCall
    cases hCall
    simp [hVerb, hNone]
  case missing =>
    intro field
    rcases hx with ⟨fault, hFault, rfl⟩ | ⟨rfl, rfl⟩
    · have hRow : reply ≠ .ok [] := by
        rintro rfl
        cases hFault
      simp [hRow.symm]
    · simp [eq_comm]
  case writes =>
    rw [forall_getElem?_cons]
    simp [Statement.not_writes hVerb]
  case notFound =>
    intro entity id
    rcases hx with ⟨fault, -, rfl⟩ | ⟨-, rfl⟩ <;> simp [target?]
  case fault =>
    intro fault
    rw [exists_getElem?_cons, failsAt_lookup]
    rcases hx with ⟨fault', hFault, rfl⟩ | ⟨rfl, rfl⟩
    · simp [hFault]
    · simp [Reply.first]
  case stops =>
    rw [forall_getElem?_cons]
    simp
  case row =>
    intro served hServed
    rcases hx with ⟨fault, -, rfl⟩ | ⟨-, rfl⟩ <;> cases hServed

/-- The lookup finds the campaign, and the ad group is added. -/
theorem exact_insert {s : Statement} {reply' : Reply} {c : Campaign}
    (hName : ¬ BlankName (.createAdGroup new)) (hVerb : s.verb = "INSERT")
    (hParams : s.params = [.int new.campaignId, .text new.name, .text new.status.text])
    (hFound : reply.first Campaign.ofCells = .ok (some c))
    (hAnswers : Answers .adGroup .one none reply' x) :
    Exact (.createAdGroup new)
      [⟨Kind.campaign.selectById new.campaignId, reply⟩, ⟨s, reply'⟩] x := by
  have hLookup := Statement.verb_selectById .campaign new.campaignId
  -- the statements differ, so the reply of the second one is not taken for that of the lookup
  have hOther : Kind.campaign.selectById new.campaignId ≠ s := by
    rintro rfl
    rw [hLookup] at hVerb
    revert hVerb
    decide
  have hRow : reply ≠ .ok [] := by
    rintro rfl
    cases hFound
  constructor
  case invalid =>
    intro field message
    simp [hName, hAnswers.valid field message]
  case silent =>
    intro hBlank
    exact absurd hBlank hName
  case planned =>
    simp [steps, hLookup, hVerb]
  case inserts =>
    intro new' hCall
    cases hCall
    refine iff_of_true ⟨_, List.mem_cons_of_mem _ List.mem_cons_self, hVerb⟩ ⟨hName, ?_⟩
    exact ⟨reply, c, List.mem_cons_self, hFound⟩
  case missing =>
    intro field
    simp [hAnswers.present field, hRow.symm, hOther]
  case writes =>
    rw [forall_getElem?_cons, forall_getElem?_cons]
    simp [Statement.not_writes hLookup, bound?, hParams]
  case notFound =>
    intro entity id
    rw [hAnswers.notFound]
    simp
  case fault =>
    intro fault
    rw [hAnswers.fault, exists_getElem?_cons, exists_getElem?_cons, failsAt_lookup, failsAt_insert,
      hFound]
    simp
  case stops =>
    rw [forall_getElem?_cons, forall_getElem?_cons]
    simp [failsAt_lookup, hFound]
  case row =>
    intro served hServed _
    obtain ⟨cells, rest, rfl, hCells⟩ := hAnswers.row served hServed
    exact ⟨_, s, cells, rest, rfl, rfl, hCells⟩

end

section

variable {ksName : String} {reply : Reply} {fault : DatabaseFault}

theorem failsAt_groups :
    FailsAt (.liveAdGroups ksName) 0 reply fault ↔ reply.all AdGroup.ofCells = .error fault := by
  rw [failsAt_iff rfl, Reply.all_eq_error_iff AdGroup.oneFault_ofCells,
    ← Reply.fails_map (f := Served.adGroup)]
  rfl

theorem failsAt_campaigns :
    FailsAt (.liveAdGroups ksName) 1 reply fault ↔ reply.all Campaign.ofCells = .error fault := by
  rw [failsAt_iff rfl, Reply.all_eq_error_iff Campaign.oneFault_ofCells,
    ← Reply.fails_map (f := Served.campaign)]
  rfl

open Statement in
/-- The live ad groups are looked up. -/
theorem exact_live {y : Decoded (List AdGroup)}
    (h : (AdGroupTable.findLive ksName).run.Plays es y)
    (hx : x = (y.mapError .database).map .adGroups) : Exact (.liveAdGroups ksName) es x := by
  have hName : ¬ BlankName (.liveAdGroups ksName) := not_blankName rfl
  have hFault : ∀ fault, x = .error (.database fault) ↔ y = .error fault := by
    intro fault
    cases y <;> simp [hx, Except.mapError, Except.map]
  -- the lookup fails through the database only, which settles all answers of other kinds
  have hOnly : ∀ e, x = .error e → ∃ fault, e = .database fault := by
    intro e hError
    cases y with
    | error fault =>
      rw [hError] at hx
      exact ⟨fault, Except.error.inj hx⟩
    | ok groups =>
      rw [hError] at hx
      cases hx
  have hGroups := not_writes (verb_selectLive ksName)
  obtain ⟨first, hCourse⟩ := Program.Plays.of_findLive h
  constructor
  case invalid =>
    intro field message
    refine iff_of_false (fun hError => ?_) fun hBlank => hName hBlank.1
    obtain ⟨fault, hFault⟩ := hOnly _ hError
    cases hFault
  case silent =>
    intro hBlank
    exact absurd hBlank hName
  case planned =>
    rcases hCourse with ⟨fault, -, rfl, -⟩ | ⟨-, rfl, -⟩ | ⟨groups, second, -, -, rfl, -⟩
    · simp [steps, verb_selectLive]
    · simp [steps, verb_selectLive]
    · simp [steps, verb_selectLive, verb_selectAll]
  case inserts =>
    intro new hCall
    cases hCall
  case missing =>
    intro field
    refine iff_of_false (fun hError => ?_) ?_
    · obtain ⟨fault, hFault⟩ := hOnly _ hError
      cases hFault
    · rintro ⟨-, new, hCall, -⟩
      cases hCall
  case writes =>
    rcases hCourse with ⟨fault, -, rfl, -⟩ | ⟨-, rfl, -⟩ | ⟨groups, second, -, -, rfl, -⟩
    · simp [forall_getElem?_cons, hGroups]
    · simp [forall_getElem?_cons, hGroups]
    · simp [forall_getElem?_cons, hGroups, not_writes (verb_selectAll _)]
  case notFound =>
    intro entity id
    refine iff_of_false (fun hError => ?_) ?_
    · obtain ⟨fault, hFault⟩ := hOnly _ hError
      cases hFault
    · rintro ⟨kind, s, hTarget, -⟩
      cases hTarget
  case fault =>
    intro fault
    rw [hFault]
    rcases hCourse with ⟨fault', hAll, rfl, rfl⟩ | ⟨rfl, rfl, rfl⟩ |
      ⟨groups, second, -, hAll, rfl, rfl⟩
    · simp [exists_getElem?_cons, failsAt_groups, hAll]
    · have hAll : Reply.all AdGroup.ofCells (.ok []) = .ok [] := rfl
      simp [exists_getElem?_cons, failsAt_groups, hAll]
    · rw [exists_getElem?_cons, exists_getElem?_cons, failsAt_groups, failsAt_campaigns, hAll]
      cases second.all Campaign.ofCells <;> simp [Except.map]
  case stops =>
    rcases hCourse with ⟨fault, -, rfl, -⟩ | ⟨-, rfl, -⟩ | ⟨groups, second, -, hAll, rfl, -⟩
    · simp [forall_getElem?_cons]
    · simp [forall_getElem?_cons]
    · simp [forall_getElem?_cons, failsAt_groups, hAll]
  case row =>
    intro served _ hOther
    exact absurd rfl (hOther ksName)

end

end Call

open Program Service in
theorem Call.joinless_service (call : Call) : call.service.run.Joinless := by
  cases call with
  | createCampaign new =>
    refine joinless_bind (joinless_bind (joinless_requireName _) fun _ => ?_) fun _ => trivial
    exact joinless_adapt joinless_one
  | getCampaign id => exact joinless_bind (joinless_found _ _ _ _) fun _ => trivial
  | updateCampaign id change =>
    refine joinless_bind (joinless_bind (joinless_requireName _) fun _ => ?_) fun _ => trivial
    exact joinless_found _ _ _ _
  | deleteCampaign id => exact joinless_bind (joinless_found _ _ _ _) fun _ => trivial
  | createAdGroup new =>
    refine joinless_bind (joinless_bind (joinless_requireName _) fun _ => ?_) fun _ => trivial
    refine joinless_bind (joinless_adapt joinless_first?) fun found => ?_
    cases found with
    | none => trivial
    | some c => exact joinless_adapt joinless_one
  | getAdGroup id => exact joinless_bind (joinless_found _ _ _ _) fun _ => trivial
  | updateAdGroup id change =>
    refine joinless_bind (joinless_bind (joinless_requireName _) fun _ => ?_) fun _ => trivial
    exact joinless_found _ _ _ _
  | deleteAdGroup id => exact joinless_bind (joinless_found _ _ _ _) fun _ => trivial
  | liveAdGroups ksName =>
    exact joinless_bind (joinless_adapt (joinless_findLive ksName)) fun _ => trivial

open Statement Kind in
/-- Whatever the database replies, a call with a blank name sends nothing, what writes is sent last
and with the arguments of the call, nothing is sent after a failure, and the answer is what the
replies say. -/
theorem service_exchanges {σ : Type} (b : Backend σ) (state : σ) (call : Call) :
    call.service.run.asked b state =
        (call.service.run.exchanges b state).map (fun e => .statement e.statement) ∧
      call.Exact (call.service.run.exchanges b state) (call.service.run.run b state).1 := by
  refine ⟨call.joinless_service.asked_eq b state, ?_⟩
  have hPlays := Program.plays_run b call.service.run state
  generalize call.service.run.exchanges b state = es at hPlays
  generalize (call.service.run.run b state).1 = x at hPlays
  cases call with
  | createCampaign new =>
    refine Call.exact_named hPlays rfl fun y hName hCreate => ?_
    obtain ⟨reply, rfl, hAnswers⟩ := Program.Plays.of_added hCreate served_campaign
    exact Call.exact_single hName nofun rfl (verb_eq rfl rfl (by simp)) (fun _ => rfl) hAnswers
  | getCampaign id =>
    obtain ⟨y, hGet, rfl⟩ := Program.Plays.of_map hPlays
    have hVerb := verb_selectById .campaign id
    refine Call.exact_found hGet rfl (Call.not_blankName rfl) nofun rfl rfl hVerb ?_
    exact fun hWrites => absurd hWrites (not_writes hVerb)
  | updateCampaign id change =>
    refine Call.exact_named hPlays rfl fun y hName hUpdate => ?_
    exact Call.exact_found hUpdate rfl hName nofun rfl rfl
      (verb_eq String.append_assoc rfl (by simp)) fun _ => rfl
  | deleteCampaign id =>
    obtain ⟨y, hDelete, rfl⟩ := Program.Plays.of_map hPlays
    exact Call.exact_found hDelete rfl (Call.not_blankName rfl) nofun rfl rfl
      (verb_markDeleted .campaign id) fun _ => rfl
  | createAdGroup new =>
    refine Call.exact_named hPlays rfl fun y hName hCreate => ?_
    rcases Program.Plays.of_except_bind hCreate with
      ⟨e, hLookup, rfl⟩ | ⟨found, es₁, es₂, rfl, hLookup, hNext⟩
    · obtain ⟨reply, rfl, hFirst⟩ := Program.Plays.of_looked hLookup
      obtain ⟨fault, hFault, rfl⟩ := mapError_eq_error hFirst.symm
      exact Call.exact_lookup hName (.inl ⟨fault, hFault, rfl⟩)
    · obtain ⟨reply, rfl, hFirst⟩ := Program.Plays.of_looked hLookup
      have hFound := mapError_eq_ok hFirst.symm
      cases found with
      | none =>
        obtain ⟨rfl, rfl⟩ := hNext
        exact Call.exact_lookup hName (.inr ⟨Reply.first_eq_none_iff.mp hFound, rfl⟩)
      | some c =>
        obtain ⟨reply', rfl, hAnswers⟩ := Program.Plays.of_added hNext served_adGroup
        exact Call.exact_insert hName (verb_eq rfl rfl (by simp)) rfl hFound hAnswers
  | getAdGroup id =>
    obtain ⟨y, hGet, rfl⟩ := Program.Plays.of_map hPlays
    have hVerb := verb_selectById .adGroup id
    refine Call.exact_found hGet rfl (Call.not_blankName rfl) nofun rfl rfl hVerb ?_
    exact fun hWrites => absurd hWrites (not_writes hVerb)
  | updateAdGroup id change =>
    refine Call.exact_named hPlays rfl fun y hName hUpdate => ?_
    exact Call.exact_found hUpdate rfl hName nofun rfl rfl
      (verb_eq String.append_assoc rfl (by simp)) fun _ => rfl
  | deleteAdGroup id =>
    obtain ⟨y, hDelete, rfl⟩ := Program.Plays.of_map hPlays
    exact Call.exact_found hDelete rfl (Call.not_blankName rfl) nofun rfl rfl
      (verb_markDeleted .adGroup id) fun _ => rfl
  | liveAdGroups ksName =>
    obtain ⟨y, hLive, rfl⟩ := Program.Plays.of_map hPlays
    obtain ⟨d, hFind, rfl⟩ := Program.Plays.of_adapt hLive
    exact Call.exact_live hFind rfl

/-- A no-break space is no name. -/
example : (Call.updateAdGroup 7 ⟨"\u00a0", .paused⟩).service.run.exchanges .scripted
    (.start (.replies [.ok []])) = [] := rfl

end CampaignFetch

import CampaignFetch.Proofs.DatabaseRows
import CampaignFetch.Proofs.Results
import CampaignFetch.Proofs.ServiceRuns
import CampaignFetch.Proofs.TableReads
import Mathlib.Logic.Relation

/-!
# Live ad groups while others write

The live ad groups of a name are looked up by two statements: one for the ad groups, whose campaigns
it checks, and one for the campaigns by identity, which checks nothing. Other calls may go on
between the two.

* `Program.Amid` is the run of a program while the calls of others go on.
* `Scene.Leads.steady`: others leave the tables sound and keep what is there.
* `Program.Amid.live`: what the two statements of the lookup give.
* `live_lookup`: every ad group is live and comes with its campaign as the second statement finds
  it. This is a live campaign of the name exactly when it still is one at that time.
-/

namespace CampaignFetch

/-! ## Runs among others -/

/-- The tables, and what is left of the calls of others. -/
structure Scene where
  tables : Tables
  others : List (Program Unit)

namespace Scene

/-- One of the calls goes on. -/
inductive Step : Scene → Scene → Prop
  | execute {t others i s next reply t'} (hNext : others[i]? = some (.execute s next))
      (hExecutes : s.Executes t reply t') : Step ⟨t, others⟩ ⟨t', others.set i (next reply)⟩
  | join {t others i q next reply} (hNext : others[i]? = some (.join q next)) :
      Step ⟨t, others⟩ ⟨t, others.set i (next reply)⟩

/-- The calls go on by any number of steps. -/
abbrev Leads : Scene → Scene → Prop := Relation.ReflTransGen Step

/-- The scene is one in a run of the calls. -/
def Steady (calls : List Call) (σ : Scene) : Prop := ∃ log, Consistent calls log σ.tables σ.others

variable {calls : List Call} {σ σ' : Scene}

theorem Step.steady (h : σ.Step σ') (hSteady : σ.Steady calls) :
    σ'.Steady calls ∧ σ.tables.KeptIn σ'.tables := by
  obtain ⟨log, hConsistent⟩ := hSteady
  cases h with
  | execute hNext hExecutes =>
    refine ⟨⟨_, hConsistent.execute hNext hExecutes⟩, ?_⟩
    rcases (hConsistent.pending _ _ hNext).execute hConsistent.sound hExecutes with
      ⟨rfl, -⟩ | ⟨-, -, hKept, -⟩
    · exact .refl _
    · exact hKept
  | join hNext => exact ⟨⟨log, hConsistent.join hNext⟩, .refl _⟩

theorem Leads.execute {t t' : Tables} {others : List (Program Unit)} {i : Nat} {s : Statement}
    {next : Reply → Program Unit} {reply : Reply} (h : σ.Leads ⟨t, others⟩)
    (hNext : others[i]? = some (.execute s next)) (hExecutes : s.Executes t reply t') :
    σ.Leads ⟨t', others.set i (next reply)⟩ := .tail h (.execute hNext hExecutes)

theorem Leads.steady (h : σ.Leads σ') (hSteady : σ.Steady calls) :
    σ'.Steady calls ∧ σ.tables.KeptIn σ'.tables := by
  induction h with
  | refl => exact ⟨hSteady, .refl _⟩
  | tail _ hStep ih =>
    obtain ⟨hNext, hKept⟩ := hStep.steady ih.1
    exact ⟨hNext, ih.2.trans hKept⟩

end Scene

namespace Program

variable {α β ε ε' : Type} {σ σ' σ'' : Scene}

/-- A program runs to its end, while the calls of others go on before any of its statements. -/
inductive Amid : Program α → Scene → α → Scene → Prop
  | done {a σ} : Amid (.done a) σ a σ
  | others {p σ σ' a σ''} (hStep : σ.Step σ') (hRest : Amid p σ' a σ'') : Amid p σ a σ''
  | execute {s next σ reply t' a σ'} (hRuns : s.Runs σ.tables reply t')
      (hRest : Amid (next reply) ⟨t', σ.others⟩ a σ') : Amid (.execute s next) σ a σ'
  | join {q next σ reply a σ'} (hRest : Amid (next reply) σ a σ') : Amid (.join q next) σ a σ'

namespace Amid

theorem leads {p : Program α} {a : α} (hLeads : σ.Leads σ') (h : p.Amid σ' a σ'') :
    p.Amid σ a σ'' := by
  induction hLeads using Relation.ReflTransGen.head_induction_on with
  | refl => exact h
  | head hStep _ ih => exact .others hStep ih

theorem bind {p : Program α} {f : α → Program β} {a : α} {b : β} (h : p.Amid σ a σ')
    (hNext : (f a).Amid σ' b σ'') : (p.bind f).Amid σ b σ'' := by
  induction h with
  | done => exact hNext
  | others hStep _ ih => exact .others hStep (ih hNext)
  | execute hRuns _ ih => exact .execute hRuns (ih hNext)
  | join _ ih => exact .join (ih hNext)

theorem of_done {a b : α} (h : (Program.done a).Amid σ b σ') : a = b ∧ σ.Leads σ' := by
  generalize hp : Program.done a = p at h
  induction h with
  | done =>
    cases hp
    exact ⟨rfl, .refl⟩
  | others hStep _ ih => exact ⟨(ih hp).1, .head hStep (ih hp).2⟩
  | execute => cases hp
  | join => cases hp

theorem of_execute {s : Statement} {next : Reply → Program α} {a : α}
    (h : (Program.execute s next).Amid σ a σ') :
    ∃ σ₁ reply t', σ.Leads σ₁ ∧ s.Runs σ₁.tables reply t' ∧
      (next reply).Amid ⟨t', σ₁.others⟩ a σ' := by
  generalize hp : Program.execute s next = p at h
  induction h with
  | done => cases hp
  | others hStep _ ih =>
    obtain ⟨σ₁, reply, t', hLeads, hRest⟩ := ih hp
    exact ⟨σ₁, reply, t', .head hStep hLeads, hRest⟩
  | execute hRuns hRest =>
    cases hp
    exact ⟨_, _, _, .refl, hRuns, hRest⟩
  | join => cases hp

theorem of_join {q : JoinQuery} {next : JoinReply → Program α} {a : α}
    (h : (Program.join q next).Amid σ a σ') :
    ∃ σ₁ reply, σ.Leads σ₁ ∧ (next reply).Amid σ₁ a σ' := by
  generalize hp : Program.join q next = p at h
  induction h with
  | done => cases hp
  | others hStep _ ih =>
    obtain ⟨σ₁, reply, hLeads, hRest⟩ := ih hp
    exact ⟨σ₁, reply, .head hStep hLeads, hRest⟩
  | execute => cases hp
  | join hRest =>
    cases hp
    exact ⟨_, _, .refl, hRest⟩

theorem of_bind {p : Program α} {f : α → Program β} {b : β} (h : (p.bind f).Amid σ b σ'') :
    ∃ a σ', p.Amid σ a σ' ∧ (f a).Amid σ' b σ'' := by
  induction p generalizing σ with
  | done a => exact ⟨a, σ, .done, h⟩
  | execute s next ih =>
    obtain ⟨σ₁, reply, t', hLeads, hRuns, hRest⟩ := of_execute h
    obtain ⟨a, σ', hFirst, hNext⟩ := ih reply hRest
    exact ⟨a, σ', leads hLeads (.execute hRuns hFirst), hNext⟩
  | join q next ih =>
    obtain ⟨σ₁, reply, hLeads, hRest⟩ := of_join h
    obtain ⟨a, σ', hFirst, hNext⟩ := ih reply hRest
    exact ⟨a, σ', leads hLeads (.join hFirst), hNext⟩

/-! ### Programs that can fail -/

theorem of_bind_ok {p : ExceptT ε Program α} {f : α → ExceptT ε Program β} {b : β}
    (h : (p >>= f).run.Amid σ (.ok b) σ'') :
    ∃ a σ', p.run.Amid σ (.ok a) σ' ∧ (f a).run.Amid σ' (.ok b) σ'' := by
  obtain ⟨x, σ', hFirst, hNext⟩ := of_bind h
  cases x with
  | ok a => exact ⟨a, σ', hFirst, hNext⟩
  | error e => cases (of_done hNext).1

theorem of_adapt_ok {f : ε → ε'} {p : ExceptT ε Program α} {a : α}
    (h : (ExceptT.adapt f p).run.Amid σ (.ok a) σ'') :
    ∃ σ', p.run.Amid σ (.ok a) σ' ∧ σ'.Leads σ'' := by
  obtain ⟨x, σ', hFirst, hNext⟩ := of_bind h
  obtain ⟨hEq, hLeads⟩ := of_done hNext
  cases x with
  | ok a' =>
    cases hEq
    exact ⟨σ', hFirst, hLeads⟩
  | error e => cases hEq

theorem of_pure {a b : α} (h : (pure a : ExceptT ε Program α).run.Amid σ (.ok b) σ') :
    a = b ∧ σ.Leads σ' := by
  obtain ⟨hEq, hLeads⟩ := of_done h
  exact ⟨Except.ok.inj hEq, hLeads⟩

open Sql in
/-- A query gives all the rows that it finds at one time, decoded. -/
theorem of_all {decode : Cells → Decoded α} {s : Statement} {as : List α} {q : Query}
    (h : (Access.all decode s).run.Amid σ (.ok as) σ') (hText : Query.ofText? s.sql = some q)
    (hQuery : Command.ofText? s.sql = some .query) :
    ∃ σ₁ rows, σ.Leads σ₁ ∧ σ₁.Leads σ' ∧ q.Finds s.params σ₁.tables rows ∧
      rows.mapM decode = .ok as := by
  obtain ⟨rows, σ₂, hAsk, hDecode⟩ := of_bind_ok h
  obtain ⟨σ₁, reply, t', hFirst, hRuns, hReply⟩ := of_execute hAsk
  obtain ⟨rfl, hSecond⟩ := of_done hReply
  obtain rfl := hRuns.executes.query hQuery
  obtain ⟨hRows, hThird⟩ := of_done hDecode
  exact ⟨σ₁, rows, hFirst, hSecond.trans hThird, hRuns.finds q rows hText rfl, hRows⟩

theorem all {decode : Cells → Decoded α} {s : Statement} {rows : List Cells} {as : List α}
    {t' : Tables} (hRuns : s.Runs σ.tables (.ok rows) t') (hRows : rows.mapM decode = .ok as) :
    (Access.all decode s).run.Amid σ (.ok as) ⟨t', σ.others⟩ := by
  refine bind (.execute hRuns .done) ?_
  change (Program.done (rows.mapM decode)).Amid _ _ _
  rw [hRows]
  exact .done

end Amid

end Program

/-! ## The two statements -/

section

open Sql

theorem Sql.Query.finds_campaignsWith_nil (t : Tables) :
    Query.campaignsWith.Finds [.ints []] t [] := by
  have hNone : ∀ ids, ¬ Query.campaignsWith.Matches [.ints []] t ids := by
    rintro ids ⟨-, hTests⟩
    obtain ⟨n, members, hValue, -, hMem⟩ := hTests (.isAny .campaignId 1) List.mem_cons_self
    cases hValue
    cases hMem
  refine ⟨[], ⟨fun ids hMem => ?_, fun ids h => absurd h (hNone ids), .nil, .nil⟩, rfl⟩
  cases hMem

namespace Program.Amid

variable {σ σ' : Scene}

theorem of_findAll {ids : List Int} {campaigns : List Campaign}
    (h : (CampaignTable.findAll ids).run.Amid σ (.ok campaigns) σ') :
    ∃ σ₁ rows, σ.Leads σ₁ ∧ σ₁.Leads σ' ∧
      Query.campaignsWith.Finds [.ints ids] σ₁.tables rows ∧
      rows.mapM Campaign.ofCells = .ok campaigns := by
  unfold CampaignTable.findAll at h
  split at h
  · -- nothing is asked
    rename_i hEmpty
    obtain ⟨rfl, hLeads⟩ := of_pure h
    obtain rfl := List.isEmpty_iff.mp hEmpty
    exact ⟨σ, [], .refl, hLeads, Query.finds_campaignsWith_nil _, rfl⟩
  · exact of_all h Query.ofText?_selectAll Command.ofText?_selectAll

/-- The lookup finds ad groups at one time and the campaigns that they refer to at a later time. -/
theorem of_live {ksName : String} {groups : List AdGroup}
    (h : (AdGroups.live ksName).run.Amid σ (.ok groups) σ') :
    ∃ σ₁ σ₂ rows found rows' campaigns, σ.Leads σ₁ ∧ σ₁.Leads σ₂ ∧ σ₂.Leads σ' ∧
      Query.live.Finds (AdGroupTable.selectLive ksName).params σ₁.tables rows ∧
      rows.mapM AdGroup.ofCells = .ok found ∧
      Query.campaignsWith.Finds [.ints (AdGroupTable.campaignIds found)] σ₂.tables rows' ∧
      rows'.mapM Campaign.ofCells = .ok campaigns ∧
      groups = found.map (AdGroupTable.embed campaigns) := by
  obtain ⟨σ₅, hFindLive, hLast⟩ := of_adapt_ok h
  obtain ⟨found, σ₃, hGroups, hCampaigns⟩ := of_bind_ok hFindLive
  obtain ⟨campaigns, σ₄, hFindAll, hEmbed⟩ := of_bind_ok hCampaigns
  obtain ⟨σ₁, rows, hBefore, hBetween, hFinds, hFound⟩ :=
    of_all hGroups (Query.ofText?_selectLive ksName) (Command.ofText?_selectLive ksName)
  obtain ⟨σ₂, rows', hBetween', hAfter, hFinds', hFound'⟩ := of_findAll hFindAll
  obtain ⟨rfl, hEnd⟩ := of_pure hEmbed
  exact ⟨σ₁, σ₂, rows, found, rows', campaigns, hBefore, hBetween.trans hBetween',
    hAfter.trans (hEnd.trans hLast), hFinds, hFound, hFinds', hFound', rfl⟩

end Program.Amid

end

/-! ## Decoded rows -/

section

variable {α β ε : Type}

variable {l : List α} {l' : List β}

theorem exists_mem_of_forall₂ {R : α → β → Prop} (h : List.Forall₂ R l l') {a : α} (hMem : a ∈ l) :
    ∃ b ∈ l', R a b := by
  induction h with
  | nil => cases hMem
  | cons hHead _ ih =>
    rcases List.mem_cons.mp hMem with rfl | hRest
    · exact ⟨_, List.mem_cons_self, hHead⟩
    · obtain ⟨b, hb, hRel⟩ := ih hRest
      exact ⟨b, List.mem_cons_of_mem _ hb, hRel⟩

variable {f : α → Except ε β}

theorem exists_mem_of_mapM (h : l.mapM f = .ok l') {b : β} (hMem : b ∈ l') :
    ∃ a ∈ l, f a = .ok b :=
  exists_mem_of_forall₂ (mapM_eq_ok_iff.mp h).flip hMem

theorem exists_mapM_mem (h : l.mapM f = .ok l') {a : α} (hMem : a ∈ l) :
    ∃ b ∈ l', f a = .ok b :=
  exists_mem_of_forall₂ (mapM_eq_ok_iff.mp h) hMem

end

theorem Cell.status_text (status : Status) : (Cell.text status.text).status = .ok status := by
  rw [Cell.status, show Cell.required (Cell.text status.text).text? = .ok status.text from rfl,
    ok_bind, Status.ofText?_text]
  rfl

theorem Campaign.ofCells_columns {r : Record} {c : Campaign} {id : Int} {status : Status}
    (h : Campaign.ofCells (Kind.campaign.columns.map r) = .ok c) (hId : r .campaignId = .int id)
    (hStatus : r .campaignStatus = .text status.text) :
    c.id = some id ∧ c.status = some status ∧ (r .campaignKsName).text? = .ok c.ksName := by
  simp only [Kind.columns, List.map_cons, List.map_nil, Campaign.ofCells, hId, hStatus,
    Cell.status_text, ok_bind] at h
  obtain ⟨n, hIdentity, h⟩ := bind_eq_ok h
  obtain ⟨name, -, h⟩ := bind_eq_ok h
  obtain ⟨ksName, hKsName, h⟩ := bind_eq_ok h
  obtain ⟨created, -, h⟩ := bind_eq_ok h
  obtain ⟨updated, -, h⟩ := bind_eq_ok h
  cases hIdentity
  cases h
  exact ⟨rfl, rfl, hKsName⟩

theorem AdGroup.ofCells_columns {r : Record} {g : AdGroup} {id : Int} {status : Status}
    (h : AdGroup.ofCells (Kind.adGroup.columns.map r) = .ok g)
    (hCampaign : r .adGroupCampaignId = .int id)
    (hStatus : r .adGroupStatus = .text status.text) :
    g.campaignId = some id ∧ g.status = some status ∧ g.campaign = none := by
  simp only [Kind.columns, List.map_cons, List.map_nil, AdGroup.ofCells, hCampaign, hStatus,
    Cell.status_text, ok_bind] at h
  obtain ⟨n, -, h⟩ := bind_eq_ok h
  obtain ⟨m, hReferred, h⟩ := bind_eq_ok h
  obtain ⟨name, -, h⟩ := bind_eq_ok h
  obtain ⟨created, -, h⟩ := bind_eq_ok h
  obtain ⟨updated, -, h⟩ := bind_eq_ok h
  cases hReferred
  cases h
  exact ⟨rfl, rfl, rfl⟩

theorem Status.text_inj {s s' : Status} : s.text = s'.text ↔ s = s' := by
  cases s <;> cases s' <;> decide

theorem Cell.text?_eq_some_iff {c : Cell} {s : String} : c.text? = .ok (some s) ↔ c = .text s := by
  cases c <;> simp [Cell.text?]

section

variable {t : Tables} {id : Int} {r : Record} {c : Campaign}

theorem Campaign.id_of_valid (hValid : r.Valid t .campaign id)
    (h : Campaign.ofCells (Kind.campaign.columns.map r) = .ok c) : c.id = some id := by
  obtain ⟨status, hStatus⟩ := hValid.status
  exact (ofCells_columns h hValid.identity hStatus).1

/-- A campaign is live and has a name exactly when its row says so. -/
theorem Campaign.carries_iff {ksName : String} (hValid : r.Valid t .campaign id)
    (h : Campaign.ofCells (Kind.campaign.columns.map r) = .ok c) :
    c.ksName = some ksName ∧ c.status ≠ some .deleted ↔ r.Carries ksName := by
  obtain ⟨status, hValue⟩ := hValid.status
  have hStatus : r .campaignStatus = .text status.text := hValue
  obtain ⟨-, hDecoded, hKsName⟩ := ofCells_columns h hValid.identity hStatus
  have hName : c.ksName = some ksName ↔ r .campaignKsName = .text ksName := by
    rw [← Cell.text?_eq_some_iff, hKsName, Except.ok.injEq]
  have hLive : c.status ≠ some .deleted ↔ r .campaignStatus ≠ .text Status.deleted.text := by
    rw [hDecoded, hStatus, ne_eq, ne_eq, Option.some.injEq, Cell.text.injEq, Status.text_inj]
  rw [Record.Carries, hName, hLive]

end

/-! ## Embedding -/

namespace AdGroupTable

theorem mem_insertId {id n : Int} {ids : List Int} : n ∈ insertId id ids ↔ n = id ∨ n ∈ ids := by
  induction ids with
  | nil => simp [insertId]
  | cons x xs ih =>
    unfold insertId
    by_cases hLess : id < x
    · rw [if_pos hLess, List.mem_cons]
    · rw [if_neg hLess]
      by_cases hSame : id = x
      · rw [if_pos hSame, hSame, List.mem_cons, ← or_assoc, or_self]
      · rw [if_neg hSame, List.mem_cons, ih, List.mem_cons]
        exact or_left_comm

theorem mem_campaignIds {groups : List AdGroup} {n : Int} :
    n ∈ campaignIds groups ↔ ∃ g ∈ groups, g.campaignId = some n := by
  have hFold : ∀ ids : List Int, n ∈ ids.foldr insertId [] ↔ n ∈ ids := by
    intro ids
    induction ids with
    | nil => rfl
    | cons id ids ih => rw [List.foldr_cons, mem_insertId, ih, List.mem_cons]
  rw [campaignIds, hFold, List.mem_filterMap]

/-- When the campaign of an ad group is among the given ones, one with its identity is embedded. -/
theorem exists_embed {campaigns : List Campaign} {g : AdGroup} {id : Int}
    (hId : g.campaignId = some id) (hThere : ∃ c ∈ campaigns, c.id = some id) :
    ∃ c ∈ campaigns, c.id = some id ∧ (embed campaigns g).campaign = some c := by
  have hSome : (campaigns.reverse.find? fun c => c.id = some id).isSome = true := by
    obtain ⟨c, hMem, hc⟩ := hThere
    exact List.find?_isSome.mpr ⟨c, List.mem_reverse.mpr hMem, decide_eq_true hc⟩
  obtain ⟨c, hFind⟩ := Option.isSome_iff_exists.mp hSome
  refine ⟨c, List.mem_reverse.mp (List.mem_of_find?_eq_some hFind), ?_, ?_⟩
  · simpa using List.find?_some hFind
  · rw [embed, hId]
    exact hFind

end AdGroupTable

/-! ## What the lookup gives -/

/-- The ad group is live and comes with its campaign, which is live and has the name. -/
structure AdGroup.LivePair (ksName : String) (g : AdGroup) : Prop where
  live : g.status ≠ some .deleted
  embedded : ∃ c, g.campaign = some c ∧ c.id = g.campaignId ∧ c.ksName = some ksName ∧
    c.status ≠ some .deleted

/-- What is given for an ad group when the first statement finds the tables `t` and the second one
the tables `t'`. -/
structure AdGroup.FoundLive (ksName : String) (t t' : Tables) (g : AdGroup) : Prop where
  group : ∃ n r, t .adGroup n = some r ∧
    AdGroup.ofCells (Kind.adGroup.columns.map r) = .ok { g with campaign := none }
  live : g.status ≠ some .deleted
  campaign : ∃ id before after c, g.campaignId = some id ∧ g.campaign = some c ∧ c.id = some id ∧
    t .campaign id = some before ∧ before.Carries ksName ∧
    t' .campaign id = some after ∧ Campaign.ofCells (Kind.campaign.columns.map after) = .ok c ∧
    (g.LivePair ksName ↔ after.Carries ksName)

section

open Sql

variable {ksName : String} {t t' : Tables}

/-- The ad groups that the first statement finds. -/
theorem exists_of_found {rows : List Cells} {found : List AdGroup} (hSound : t.Sound)
    (hFinds : Query.live.Finds (AdGroupTable.selectLive ksName).params t rows)
    (hFound : rows.mapM AdGroup.ofCells = .ok found) {g : AdGroup} (hMem : g ∈ found) :
    (∃ n r, t .adGroup n = some r ∧
      AdGroup.ofCells (Kind.adGroup.columns.map r) = .ok { g with campaign := none }) ∧
      g.status ≠ some .deleted ∧
      ∃ id before, g.campaignId = some id ∧ t .campaign id = some before ∧
        before.Carries ksName := by
  obtain ⟨cells, hCells, hDecoded⟩ := exists_mem_of_mapM hFound hMem
  obtain ⟨ids, hMatches, rfl⟩ := hFinds.exists_matches hCells
  obtain ⟨group, before, hGroup, hRefers, hLive, hCampaign, hCarries⟩ := hMatches.live hSound
  rw [show Query.live.returned = Kind.adGroup.columns from rfl,
    Tables.map_cell_columns hGroup] at hDecoded
  obtain ⟨status, hStatus⟩ := (hSound _ _ _ hGroup).status
  obtain ⟨hId, hGiven, hNone⟩ := AdGroup.ofCells_columns hDecoded hRefers hStatus
  have hBare : { g with campaign := none } = g := by rw [← hNone]
  refine ⟨⟨_, group, hGroup, hBare ▸ hDecoded⟩, ?_, _, before, hId, hCampaign, hCarries⟩
  intro hDeleted
  rw [hGiven] at hDeleted
  cases hDeleted
  exact hLive hStatus

/-- The campaigns that the second statement finds. -/
theorem exists_of_found_campaign {wanted : List Int} {rows : List Cells}
    {campaigns : List Campaign} (hSound : t'.Sound)
    (hFinds : Query.campaignsWith.Finds [.ints wanted] t' rows)
    (hFound : rows.mapM Campaign.ofCells = .ok campaigns) {c : Campaign} (hMem : c ∈ campaigns) :
    ∃ id after, c.id = some id ∧ t' .campaign id = some after ∧
      Campaign.ofCells (Kind.campaign.columns.map after) = .ok c := by
  obtain ⟨cells, hCells, hDecoded⟩ := exists_mem_of_mapM hFound hMem
  obtain ⟨ids, hMatches, rfl⟩ := hFinds.exists_matches hCells
  obtain ⟨after, hAfter⟩ := Option.isSome_iff_exists.mp
    ((Query.matches_campaignsWith_iff hSound).mp hMatches).2
  rw [show Query.campaignsWith.returned = Kind.campaign.columns from rfl,
    Tables.map_cell_columns hAfter] at hDecoded
  exact ⟨_, after, Campaign.id_of_valid (hSound _ _ _ hAfter) hDecoded, hAfter, hDecoded⟩

/-- A campaign that is asked for and there is found. -/
theorem exists_found_campaign {wanted : List Int} {rows : List Cells}
    {campaigns : List Campaign} (hSound : t'.Sound)
    (hFinds : Query.campaignsWith.Finds [.ints wanted] t' rows)
    (hFound : rows.mapM Campaign.ofCells = .ok campaigns) {id : Int} (hWanted : id ∈ wanted)
    {after : Record} (hAfter : t' .campaign id = some after) :
    ∃ c ∈ campaigns, c.id = some id := by
  have hMatches : Query.campaignsWith.Matches [.ints wanted] t' fun _ => id :=
    (Query.matches_campaignsWith_iff hSound).mpr ⟨hWanted, Option.isSome_iff_exists.mpr ⟨_, hAfter⟩⟩
  obtain ⟨ids, hSame, hRow⟩ := hFinds.mem_of_matches hMatches
  have hId : ids .campaign = id := hSame .campaign List.mem_cons_self
  rw [← hId] at hAfter
  rw [show Query.campaignsWith.returned = Kind.campaign.columns from rfl,
    Tables.map_cell_columns hAfter] at hRow
  obtain ⟨c, hMem, hDecoded⟩ := exists_mapM_mem hFound hRow
  exact ⟨c, hMem, hId ▸ Campaign.id_of_valid (hSound _ _ _ hAfter) hDecoded⟩

theorem foundLive_of_found {rows rows' : List Cells} {found : List AdGroup}
    {campaigns : List Campaign} (hSound : t.Sound) (hSound' : t'.Sound) (hKept : t.KeptIn t')
    (hFinds : Query.live.Finds (AdGroupTable.selectLive ksName).params t rows)
    (hFound : rows.mapM AdGroup.ofCells = .ok found)
    (hFinds' : Query.campaignsWith.Finds [.ints (AdGroupTable.campaignIds found)] t' rows')
    (hFound' : rows'.mapM Campaign.ofCells = .ok campaigns) {g : AdGroup} (hMem : g ∈ found) :
    (AdGroupTable.embed campaigns g).FoundLive ksName t t' := by
  obtain ⟨hGroup, hLive, id, before, hId, hBefore, hCarries⟩ :=
    exists_of_found hSound hFinds hFound hMem
  -- the campaign is still there when the second statement asks for it
  obtain ⟨after, hAfter, -⟩ := hKept _ _ _ hBefore
  have hWanted := AdGroupTable.mem_campaignIds.mpr ⟨g, hMem, hId⟩
  obtain ⟨c, hc, hcId, hEmbedded⟩ := AdGroupTable.exists_embed hId
    (exists_found_campaign hSound' hFinds' hFound' hWanted hAfter)
  obtain ⟨id', after', hcId', hAfter', hDecoded'⟩ :=
    exists_of_found_campaign hSound' hFinds' hFound' hc
  obtain rfl : id = id' := Option.some.inj (hcId.symm.trans hcId')
  obtain rfl : after = after' := Option.some.inj (hAfter.symm.trans hAfter')
  have hIff : c.ksName = some ksName ∧ c.status ≠ some .deleted ↔ after.Carries ksName :=
    Campaign.carries_iff (hSound' _ _ _ hAfter) hDecoded'
  refine ⟨hGroup, hLive, id, before, after, c, hId, hEmbedded, hcId, hBefore, hCarries, hAfter,
    hDecoded', ?_⟩
  constructor
  · rintro ⟨-, c', hc', -, hNamed⟩
    obtain rfl : c = c' := Option.some.inj (hEmbedded.symm.trans hc')
    exact hIff.mp hNamed
  · intro hAgain
    exact ⟨hLive, c, hEmbedded, hcId.trans hId.symm, hIff.mpr hAgain⟩

end

/-- When both statements find the same tables, the ad group is live and so is its campaign. -/
theorem AdGroup.FoundLive.livePair {ksName : String} {t : Tables} {g : AdGroup}
    (h : g.FoundLive ksName t t) : g.LivePair ksName := by
  obtain ⟨id, before, after, c, -, -, -, hBefore, hCarries, hAfter, -, hIff⟩ := h.campaign
  obtain rfl : before = after := Option.some.inj (hBefore.symm.trans hAfter)
  exact hIff.mpr hCarries

/-- Whatever others do, the lookup gives ad groups as one scene of the run has them, live and of
live campaigns of the name, and it gives their campaigns as a later scene has them. They are live
campaigns of the name exactly when they still are in that scene. -/
theorem live_lookup {calls : List Call} {ksName : String} {t : Tables} {groups : List AdGroup}
    {σ : Scene} (hSound : t.Sound)
    (hRun : (AdGroups.live ksName).run.Amid ⟨t, calls.map Call.program⟩ (.ok groups) σ) :
    ∃ σ₁ σ₂ : Scene, Scene.Leads ⟨t, calls.map Call.program⟩ σ₁ ∧ σ₁.Leads σ₂ ∧ σ₂.Leads σ ∧
      ∀ g ∈ groups, g.FoundLive ksName σ₁.tables σ₂.tables := by
  have hStart : Scene.Steady calls ⟨t, calls.map Call.program⟩ := ⟨[], .start hSound calls⟩
  obtain ⟨σ₁, σ₂, rows, found, rows', campaigns, hBefore, hBetween, hAfter, hFinds, hFound, hFinds',
    hFound', rfl⟩ := hRun.of_live
  obtain ⟨hSteady, -⟩ := hBefore.steady hStart
  obtain ⟨hSteady', hKept⟩ := hBetween.steady hSteady
  refine ⟨σ₁, σ₂, hBefore, hBetween, hAfter, fun g hGiven => ?_⟩
  obtain ⟨g, hMem, rfl⟩ := List.mem_map.mp hGiven
  obtain ⟨_, hConsistent⟩ := hSteady
  obtain ⟨_, hConsistent'⟩ := hSteady'
  exact foundLive_of_found hConsistent.sound hConsistent'.sound hKept hFinds hFound hFinds' hFound'
    hMem

def lookupCampaign : Record :=
  (Record.fresh .campaign 1 "2024-01-15T09:30:00").setAll
    (NewCampaign.values ⟨"Brand", some "core", .active⟩)

def lookupDeleted : Record :=
  lookupCampaign.setAll
    (Kind.campaign.deletedValues ++ [(.campaignLastUpdated, .text "2024-01-15T09:30:00")])

def lookupAdGroup : Record :=
  (Record.fresh .adGroup 1 "2024-01-15T09:30:00").setAll
    (NewAdGroup.values ⟨1, "Search", .active⟩)

/-- A live campaign of the name "core" with a live ad group. -/
def lookupTables : Tables :=
  (Tables.empty.set .campaign 1 lookupCampaign).set .adGroup 1 lookupAdGroup

theorem sound_lookupTables : lookupTables.Sound := by
  have hCampaign : lookupCampaign.Valid .empty .campaign 1 :=
    ⟨rfl, ⟨"Brand", rfl, by decide⟩, ⟨.active, rfl⟩, fun hKind => by cases hKind⟩
  have hAdGroup : lookupAdGroup.Valid (Tables.empty.set .campaign 1 lookupCampaign) .adGroup 1 :=
    ⟨rfl, ⟨"Search", rfl, by decide⟩, ⟨.active, rfl⟩, fun _ => ⟨1, rfl, rfl⟩⟩
  refine (Tables.sound_empty.set hCampaign fun old hOld => ?_).set hAdGroup fun old hOld => ?_
  · cases hOld
  · cases hOld

def lookupLater : Tables := lookupTables.set .campaign 1 lookupDeleted

def lookupResult : AdGroup :=
  { AdGroup.sample 1 1 "Search" .active with
    campaign := some (.sample 1 "Brand" "core" .deleted) }

section

open Sql

theorem finds_lookupTables :
    Query.live.Finds (AdGroupTable.selectLive "core").params lookupTables
      [Kind.adGroup.columns.map lookupAdGroup] := by
  have hOnly : ∀ kind n, (lookupTables kind n).isSome = true → 1 = n := by
    intro kind n hRow
    by_contra hNe
    simp [lookupTables, Tables.set, Tables.empty, Ne.symm hNe] at hRow
  have hMatches : Query.live.Matches (AdGroupTable.selectLive "core").params lookupTables
      fun _ => 1 := by
    refine ⟨fun kind _ => by cases kind <;> rfl, ?_⟩
    simp only [Query.live, List.forall_mem_cons, Test.Holds]
    refine ⟨⟨by decide, rfl⟩, ⟨by decide, rfl⟩, ⟨by decide, _, rfl, by decide, by decide⟩,
      ⟨by decide, _, rfl, by decide, by decide⟩, fun _ h => by cases h⟩
  exact .of_unique hMatches fun ids h kind hKind => hOnly kind _ (h.1 kind hKind)

theorem finds_lookupLater :
    Query.campaignsWith.Finds [.ints [1]] lookupLater
      [Kind.campaign.columns.map lookupDeleted] := by
  have hOnly : ∀ n, (lookupLater .campaign n).isSome = true → 1 = n := by
    intro n hRow
    by_contra hNe
    simp [lookupLater, lookupTables, Tables.set, Tables.empty, Ne.symm hNe] at hRow
  have hMatches : Query.campaignsWith.Matches [.ints [1]] lookupLater fun _ => 1 := by
    simp only [Query.Matches, Query.campaignsWith, List.forall_mem_singleton, Test.Holds]
    exact ⟨rfl, 1, [1], rfl, rfl, List.mem_cons_self⟩
  refine .of_unique hMatches fun ids h kind hKind => ?_
  obtain rfl := List.mem_singleton.mp hKind
  exact hOnly _ (h.1 _ hKind)

/-- The campaign is deleted between the two statements. The lookup gives the ad group all the same,
with a deleted campaign. -/
theorem live_lookup_outdated :
    lookupTables.Sound ∧
      ∃ σ, (AdGroups.live "core").run.Amid
          ⟨lookupTables, [Call.deleteCampaign 1].map Call.program⟩ (.ok [lookupResult]) σ ∧
        ¬ lookupResult.LivePair "core" ∧
        ∃ t t' : Tables, lookupResult.FoundLive "core" t t' := by
  have hKey : Operand.cell? [.text "DELETED", .int 1] "2024-01-15T09:30:00" (.param 2) =
      some (.int 1) := rfl
  -- the other call is executed after the ad groups are found
  have hStart : Scene.Leads ⟨lookupTables, [Call.deleteCampaign 1].map Call.program⟩
      ⟨lookupTables, _⟩ := .refl
  have hDeleted : Scene.Leads _ ⟨lookupLater, _⟩ := hStart.execute (i := 0) rfl
    (.ran (Command.ofText?_markDeleted .campaign 1) (.update hKey rfl rfl))
  have hGroups : (Access.all AdGroup.ofCells (AdGroupTable.selectLive "core")).run.Amid
      ⟨lookupTables, [Call.deleteCampaign 1].map Call.program⟩
      (.ok [AdGroup.sample 1 1 "Search" .active]) _ :=
    .all (.of_finds (Query.ofText?_selectLive "core") (Command.ofText?_selectLive "core")
      finds_lookupTables) (by decide +kernel)
  have hCampaigns : ∀ others, (CampaignTable.findAll [1]).run.Amid ⟨lookupLater, others⟩
      (.ok [.sample 1 "Brand" "core" .deleted]) ⟨lookupLater, others⟩ := fun _ =>
    .all (.of_finds Query.ofText?_selectAll Command.ofText?_selectAll finds_lookupLater)
      (by decide +kernel)
  have hRun : (AdGroups.live "core").run.Amid
      ⟨lookupTables, [Call.deleteCampaign 1].map Call.program⟩ (.ok [lookupResult]) _ :=
    .bind (.bind hGroups (.leads hDeleted (.bind (hCampaigns _) .done))) .done
  obtain ⟨σ₁, σ₂, -, -, -, hFound⟩ := live_lookup sound_lookupTables hRun
  refine ⟨sound_lookupTables, _, hRun, ?_, σ₁.tables, σ₂.tables, hFound _ List.mem_cons_self⟩
  rintro ⟨-, c, hCampaign, -, -, hLive⟩
  cases hCampaign
  exact hLive rfl

end

end CampaignFetch

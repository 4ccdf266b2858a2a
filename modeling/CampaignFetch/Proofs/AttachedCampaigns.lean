import CampaignFetch.Proofs.Exchanges
import CampaignFetch.Proofs.LiveLookup

/-!
# Campaigns attached to ad groups

The lookup of a name reads ad groups from the reply to a first statement and their campaigns from
the reply to a second one, which is sent only if there are ad groups. Here the replies are any; that
they come from the tables is not asked for.

* `AdGroup.Attached` says what becomes of one ad group of the first reply.
* `AdGroupTable.pairwise_campaignIds`: the identities in the second statement ascend strictly.
* `Program.Plays.of_findLive`: the three courses of the lookup.
* `live_groups_attached`: what is sent and what is given, for all replies.
-/

namespace CampaignFetch

/-- The statement for the campaigns with the given identities. -/
def CampaignTable.selectAll (ids : List Int) : Statement :=
  ⟨"SELECT " ++ Kind.campaign.columnList ++ " FROM campaign WHERE id = ANY($1) ORDER BY id",
    [.ints ids]⟩

theorem CampaignTable.findAll_eq {ids : List Int} (h : ids ≠ []) :
    findAll ids = .all Campaign.ofCells (selectAll ids) := by
  rw [findAll, if_neg (by simpa using h)]
  rfl

/-- The ad group is one that was found, with its campaign among the given ones. -/
structure AdGroup.Attached (campaigns : List Campaign) (found g : AdGroup) : Prop where
  /-- Nothing else is changed. -/
  kept : g = { found with campaign := g.campaign }
  /-- Of several campaigns with the identity it is the last one. -/
  last : ∀ c, g.campaign = some c ↔ ∃ before after, campaigns = before ++ c :: after ∧
    c.id = found.campaignId ∧ ∀ d ∈ after, d.id ≠ found.campaignId
  missing : g.campaign = none ↔ ∀ c ∈ campaigns, c.id ≠ found.campaignId

theorem AdGroup.exists_campaignId {cells : Cells} {g : AdGroup} (h : ofCells cells = .ok g) :
    ∃ id, g.campaignId = some id := by
  unfold ofCells at h
  split at h
  · obtain ⟨status, -, h⟩ := bind_eq_ok h
    obtain ⟨id, -, h⟩ := bind_eq_ok h
    obtain ⟨campaignId, -, h⟩ := bind_eq_ok h
    obtain ⟨name, -, h⟩ := bind_eq_ok h
    obtain ⟨created, -, h⟩ := bind_eq_ok h
    obtain ⟨updated, -, h⟩ := bind_eq_ok h
    cases h
    exact ⟨campaignId, rfl⟩
  · cases h

namespace AdGroupTable

/-! ## Identities -/

theorem pairwise_insertId {id : Int} {ids : List Int} (h : ids.Pairwise (· < ·)) :
    (insertId id ids).Pairwise (· < ·) := by
  induction ids with
  | nil => exact List.pairwise_singleton _ _
  | cons x xs ih =>
    obtain ⟨hFirst, hRest⟩ := List.pairwise_cons.mp h
    unfold insertId
    by_cases hLess : id < x
    · rw [if_pos hLess]
      refine List.pairwise_cons.mpr ⟨fun n hMem => ?_, h⟩
      rcases List.mem_cons.mp hMem with rfl | hMem
      · exact hLess
      · exact Int.lt_trans hLess (hFirst n hMem)
    · rw [if_neg hLess]
      by_cases hSame : id = x
      · rw [if_pos hSame]
        exact h
      · rw [if_neg hSame]
        refine List.pairwise_cons.mpr ⟨fun n hMem => ?_, ih hRest⟩
        rcases mem_insertId.mp hMem with rfl | hMem
        · omega
        · exact hFirst n hMem

theorem pairwise_campaignIds (groups : List AdGroup) : (campaignIds groups).Pairwise (· < ·) := by
  unfold campaignIds
  induction groups.filterMap AdGroup.campaignId with
  | nil => exact .nil
  | cons id ids ih => exact pairwise_insertId ih

theorem campaignIds_ne_nil {cells : Cells} {g : AdGroup} {groups : List AdGroup}
    (h : AdGroup.ofCells cells = .ok g) : campaignIds (g :: groups) ≠ [] := by
  obtain ⟨id, hId⟩ := AdGroup.exists_campaignId h
  exact List.ne_nil_of_mem (mem_campaignIds.mpr ⟨g, List.mem_cons_self, hId⟩)

/-! ## Embedding -/

theorem embed_campaign_eq_some_iff {campaigns : List Campaign} {g : AdGroup} {id : Int}
    {c : Campaign} (hId : g.campaignId = some id) :
    (embed campaigns g).campaign = some c ↔ ∃ before after, campaigns = before ++ c :: after ∧
      c.id = some id ∧ ∀ d ∈ after, d.id ≠ some id := by
  have hFind : (embed campaigns g).campaign =
      campaigns.reverse.find? fun c => c.id = some id := by
    rw [embed, hId]
    rfl
  rw [hFind, List.find?_eq_some_iff_append]
  simp only [decide_eq_true_eq, Bool.not_eq_true', decide_eq_false_iff_not]
  constructor
  · rintro ⟨hSame, after, before, hSplit, hAfter⟩
    refine ⟨before.reverse, after.reverse, ?_, hSame, fun d hMem => ?_⟩
    · rw [← List.reverse_reverse campaigns, hSplit, List.reverse_append, List.reverse_cons,
        List.append_assoc, List.singleton_append]
    · exact hAfter d (List.mem_reverse.mp hMem)
  · rintro ⟨before, after, rfl, hSame, hAfter⟩
    refine ⟨hSame, after.reverse, before.reverse, ?_, fun d hMem => ?_⟩
    · rw [List.reverse_append, List.reverse_cons, List.append_assoc, List.singleton_append]
    · exact hAfter d (List.mem_reverse.mp hMem)

theorem embed_campaign_eq_none_iff {campaigns : List Campaign} {g : AdGroup} {id : Int}
    (hId : g.campaignId = some id) :
    (embed campaigns g).campaign = none ↔ ∀ c ∈ campaigns, c.id ≠ some id := by
  rw [embed, hId]
  simp

theorem attached_embed {cells : Cells} {g : AdGroup} (h : AdGroup.ofCells cells = .ok g)
    (campaigns : List Campaign) : g.Attached campaigns (embed campaigns g) := by
  obtain ⟨id, hId⟩ := AdGroup.exists_campaignId h
  constructor
  · rfl
  · intro c
    rw [hId]
    exact embed_campaign_eq_some_iff hId
  · rw [hId]
    exact embed_campaign_eq_none_iff hId

end AdGroupTable

/-! ## The two statements -/

open AdGroupTable CampaignTable

/-- The lookup stops after its first statement unless that gives ad groups. -/
theorem Program.Plays.of_findLive {ksName : String} {es : List Exchange}
    {x : Decoded (List AdGroup)} (h : (findLive ksName).run.Plays es x) :
    ∃ first : Reply,
      (∃ fault, first.all AdGroup.ofCells = .error fault ∧ es = [⟨selectLive ksName, first⟩] ∧
        x = .error fault) ∨
      (first = .ok [] ∧ es = [⟨selectLive ksName, first⟩] ∧ x = .ok []) ∨
      ∃ groups second, first ≠ .ok [] ∧ first.all AdGroup.ofCells = .ok groups ∧
        es = [⟨selectLive ksName, first⟩, ⟨selectAll (campaignIds groups), second⟩] ∧
        x = (second.all Campaign.ofCells).map fun campaigns => groups.map (embed campaigns) := by
  rcases of_except_bind h with ⟨fault, hAll, rfl⟩ | ⟨groups, es₁, es₂, rfl, hAll, hNext⟩
  · obtain ⟨first, rfl, hFirst⟩ := of_all hAll
    exact ⟨first, .inl ⟨fault, hFirst.symm, rfl, rfl⟩⟩
  · obtain ⟨first, rfl, hFirst⟩ := of_all hAll
    refine ⟨first, .inr ?_⟩
    obtain ⟨y, hFindAll, rfl⟩ := of_map hNext
    obtain ⟨table, rfl, hGroups⟩ := Reply.all_eq_ok_iff.mp hFirst.symm
    cases hGroups with
    | nil =>
      -- no identities, so nothing is asked
      obtain ⟨rfl, rfl⟩ := hFindAll
      exact .inl ⟨rfl, rfl, rfl⟩
    | @cons cells g rest groups hHead hRest =>
      rw [findAll_eq (campaignIds_ne_nil hHead)] at hFindAll
      obtain ⟨second, rfl, rfl⟩ := of_all hFindAll
      exact .inr ⟨g :: groups, second, by simp, hFirst.symm, rfl, rfl⟩

theorem joinless_findLive (ksName : String) : (findLive ksName).run.Joinless := by
  refine Program.joinless_bind Program.joinless_all fun groups => ?_
  refine Program.joinless_bind ?_ fun campaigns => trivial
  unfold findAll
  split
  · trivial
  · exact Program.joinless_all

/-- The lookup sends its second statement when the first one gives ad groups that are all decoded.
Then it gives these ad groups in their order, each with the last campaign of its identity, or it
fails as a whole. -/
theorem live_groups_attached {σ : Type} (b : Backend σ) (state : σ) (ksName : String) :
    let es := (findLive ksName).run.exchanges b state
    let x := ((findLive ksName).run.run b state).1
    (findLive ksName).run.asked b state = es.map (fun e => .statement e.statement) ∧
    ∃ first : Reply, es.head? = some ⟨selectLive ksName, first⟩ ∧
      (first = .ok [] → es = [⟨selectLive ksName, first⟩] ∧ x = .ok []) ∧
      (∀ fault, first.Fails AdGroup.ofCells .all fault →
        es = [⟨selectLive ksName, first⟩] ∧ x = .error fault) ∧
      ∀ groups, first ≠ .ok [] → first.all AdGroup.ofCells = .ok groups →
        ∃ ids second, es = [⟨selectLive ksName, first⟩, ⟨selectAll ids, second⟩] ∧
          ids.Pairwise (· < ·) ∧ (∀ n, n ∈ ids ↔ ∃ g ∈ groups, g.campaignId = some n) ∧
          (∀ fault, second.Fails Campaign.ofCells .all fault → x = .error fault) ∧
          ∀ campaigns, second.all Campaign.ofCells = .ok campaigns →
            ∃ attached, x = .ok attached ∧
              List.Forall₂ (AdGroup.Attached campaigns) groups attached := by
  intro es x
  refine ⟨(joinless_findLive ksName).asked_eq b state, ?_⟩
  -- the lookup takes one of three courses, told apart by the first reply
  obtain ⟨first, hCourse⟩ := Program.Plays.of_findLive (Program.plays_run b _ state)
  refine ⟨first, ?_, ?_, ?_, ?_⟩
  · rcases hCourse with ⟨fault, -, hEs, -⟩ | ⟨-, hEs, -⟩ | ⟨groups, second, -, -, hEs, -⟩
    all_goals exact congrArg List.head? hEs
  · rintro rfl
    rcases hCourse with ⟨fault, hFault, -⟩ | ⟨-, hEs, hx⟩ | ⟨groups, second, hRow, -⟩
    · cases hFault
    · exact ⟨hEs, hx⟩
    · exact absurd rfl hRow
  · intro fault hFails
    have hError := (Reply.all_eq_error_iff AdGroup.oneFault_ofCells).mpr hFails
    rcases hCourse with ⟨fault', hFault, hEs, hx⟩ | ⟨rfl, -⟩ | ⟨groups, second, -, hGroups, -⟩
    · rw [hError] at hFault
      cases hFault
      exact ⟨hEs, hx⟩
    · cases hError
    · rw [hError] at hGroups
      cases hGroups
  · intro groups hRow hGroups
    rcases hCourse with ⟨fault, hFault, -⟩ | ⟨hNone, -⟩ | ⟨groups', second, -, hFirst, hEs, hx⟩
    · rw [hGroups] at hFault
      cases hFault
    · exact absurd hNone hRow
    · rw [hGroups] at hFirst
      cases hFirst
      refine ⟨campaignIds groups, second, hEs, pairwise_campaignIds groups,
        fun n => mem_campaignIds, fun fault hFails => ?_, fun campaigns hCampaigns => ?_⟩
      · have hError := (Reply.all_eq_error_iff Campaign.oneFault_ofCells).mpr hFails
        rw [hError] at hx
        exact hx
      · rw [hCampaigns] at hx
        refine ⟨_, hx, ?_⟩
        obtain ⟨table, -, hRows⟩ := Reply.all_eq_ok_iff.mp hGroups
        rw [List.forall₂_map_right_iff, List.forall₂_same]
        intro g hMem
        obtain ⟨cells, -, hCells⟩ := exists_mem_of_forall₂ hRows.flip hMem
        exact attached_embed hCells campaigns

def bareGroup (id campaignId : Int) : AdGroup :=
  { AdGroup.blank with id := some id, campaignId := some campaignId, status := some .active }

def bareCampaign (id : Int) (name : String) : Campaign :=
  { Campaign.blank with id := some id, name := some name, status := some .active }

/-- The rows that are decoded as them. -/
def bareGroupCells (id campaignId : Int) : Cells :=
  [.int id, .int campaignId, .null, .text "ACTIVE", .null, .null]

def bareCampaignCells (id : Int) (name : String) : Cells :=
  [.int id, .text name, .null, .text "ACTIVE", .null, .null]

/-- Two ad groups share a campaign, of which two rows came back; another one has no campaign. -/
theorem live_groups_attached_shared :
    let first : Reply := .ok [bareGroupCells 9 2, bareGroupCells 7 1, bareGroupCells 8 2]
    let second : Reply := .ok [bareCampaignCells 2 "old", bareCampaignCells 2 "new"]
    let db : ScriptedDatabase := .start (.replies [first, second])
    (findLive "core").run.exchanges .scripted db =
        [⟨selectLive "core", first⟩, ⟨selectAll [1, 2], second⟩] ∧
      ∃ attached, ((findLive "core").run.run .scripted db).1 = .ok attached ∧
        attached.map AdGroup.id = [some 9, some 7, some 8] ∧
        attached.map AdGroup.campaign =
          [some (bareCampaign 2 "new"), none, some (bareCampaign 2 "new")] := by
  intro first second db
  have hEs : (findLive "core").run.exchanges .scripted db =
      [⟨selectLive "core", first⟩, ⟨selectAll [1, 2], second⟩] := rfl
  refine ⟨hEs, ?_⟩
  obtain ⟨-, reply, hHead, -, -, hRows⟩ := live_groups_attached .scripted db "core"
  obtain rfl : reply = first := by
    rw [hEs] at hHead
    cases hHead
    rfl
  have hGroups : first.all AdGroup.ofCells = .ok [bareGroup 9 2, bareGroup 7 1, bareGroup 8 2] := by
    decide +kernel
  obtain ⟨ids, reply', hBoth, -, -, -, hGives⟩ := hRows _ (by simp [first]) hGroups
  obtain rfl : reply' = second := by
    rw [hEs] at hBoth
    cases hBoth
    rfl
  have hCampaigns : second.all Campaign.ofCells =
      .ok [bareCampaign 2 "old", bareCampaign 2 "new"] := by
    decide +kernel
  obtain ⟨attached, hRun, hAttached⟩ := hGives _ hCampaigns
  rcases hAttached with _ | ⟨h₉, _ | ⟨h₇, _ | ⟨h₈, _ | _⟩⟩⟩
  refine ⟨_, hRun, ?_, ?_⟩
  · rw [h₉.kept, h₇.kept, h₈.kept]
    rfl
  · have hNew : ∀ d ∈ ([] : List Campaign), d.id ≠ some 2 := by simp
    have hNone : ∀ c ∈ [bareCampaign 2 "old", bareCampaign 2 "new"], c.id ≠ some 1 := by
      decide
    simp only [List.map_cons, List.map_nil]
    rw [(h₉.last _).mpr ⟨[_], [], rfl, rfl, hNew⟩, h₇.missing.mpr hNone,
      (h₈.last _).mpr ⟨[_], [], rfl, rfl, hNew⟩]

end CampaignFetch

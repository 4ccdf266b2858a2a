import CampaignFetch.Proofs.FetchDirections

/-!
# What the fields of a request decide

The fields of a request decide which columns are fetched and nothing else: rows are joined, filtered
and ordered before they are projected, and grouping reads the identities, which are always fetched.

* `assemble_map`: rows that make the same groups up to a change of the entities.
* `fetchGroups_fields`: the groups of a request are those with all columns
  (`MemoryStore.fullGroups`), with the fields cleared that it does not select.
* `answers_cleared`: the answers to a request are those to a request for all fields, with the
  fields cleared; their identities are the same for all fields.

Nothing is assumed of the store: identities may be missing or occur more than once.
-/

namespace CampaignFetch

/-! ## Changing the entities of groups -/

section

variable {P R : Type}

/-- The group with its entities changed. -/
def Group.map (f : P → P) (g : R → R) (x : Group P R) : Group P R := ⟨f x.primary, x.related.map g⟩

namespace Groups

/-- The groups with their entities changed. -/
def mapEntities (f : P → P) (g : R → R) (groups : Groups P R) : Groups P R :=
  List.map (fun entry => (entry.1, entry.2.map f g)) groups

theorem mapEntities_add (f : P → P) (g : R → R) (groups : Groups P R) (id : Int) (primary : P)
    (related : List R) :
    (groups.add id primary related).mapEntities f g =
      (groups.mapEntities f g).add id (f primary) (related.map g) := by
  induction groups with
  | nil => rfl
  | cons head rest ih =>
    obtain ⟨other, group⟩ := head
    have hCons : Groups.mapEntities f g ((other, group) :: rest) =
        (other, group.map f g) :: Groups.mapEntities f g rest := rfl
    rw [hCons, add, add]
    by_cases hLess : id < other
    · rw [if_pos hLess, if_pos hLess]
      rfl
    · rw [if_neg hLess, if_neg hLess]
      by_cases hSame : id = other
      · rw [if_pos hSame, if_pos hSame]
        simp [mapEntities, Group.map]
      · rw [if_neg hSame, if_neg hSame, ← ih]
        rfl

end Groups

variable [Entity P] [Entity R] {own own' related related' : List Column} {keep : Bool}
  {image : Row → Row} {f : P → P} {g : R → R}

theorem Groups.addRow_mapEntities (hId : ∀ row, primaryId? P (image row) = primaryId? P row)
    (hOwn : ∀ row, (image row).build own' = f (row.build own))
    (hRelated : ∀ row,
      relatedOf R related' keep (image row) = (relatedOf R related keep row).map g)
    (groups : Groups P R) (row : Row) :
    (groups.mapEntities f g).addRow own' related' keep (image row) =
      (groups.addRow own related keep row).mapEntities f g := by
  unfold addRow
  rw [hId row]
  cases primaryId? P row with
  | none => rfl
  | some id =>
    dsimp only
    rw [mapEntities_add, hOwn, hRelated]

/-- Rows with the same identities make the same groups, with their entities changed as the rows
change them. -/
theorem assemble_map (hId : ∀ row, primaryId? P (image row) = primaryId? P row)
    (hOwn : ∀ row, (image row).build own' = f (row.build own))
    (hRelated : ∀ row,
      relatedOf R related' keep (image row) = (relatedOf R related keep row).map g)
    (limit : Option Nat) (rows : List Row) :
    assemble own' related' limit keep (rows.map image) =
      (assemble own related limit keep rows).map (Group.map f g) := by
  have hGroups : (rows.map image).foldl (Groups.addRow own' related' keep) ([] : Groups P R) =
      (rows.foldl (Groups.addRow own related keep) ([] : Groups P R)).mapEntities f g := by
    rw [List.foldl_map]
    change rows.foldl _ (Groups.mapEntities f g []) = _
    exact List.foldl_hom _ fun groups row =>
      Groups.addRow_mapEntities hId hOwn hRelated groups row
  have hEntries : ∀ groups : Groups P R,
      (groups.mapEntities f g).map (·.2) = (List.map (·.2) groups).map (Group.map f g) := by
    intro groups
    simp only [Groups.mapEntities, List.map_map]
    rfl
  simp only [assemble, hGroups, hEntries]
  cases limit with
  | none => rfl
  | some n => exact List.map_take.symm

end

/-! ## Clearing fields -/

/-- The campaign with the fields of the selected columns only. -/
def Campaign.cleared (selected : Column → Bool) (c : Campaign) : Campaign where
  id := if selected .campaignId then c.id else none
  name := if selected .campaignName then c.name else none
  ksName := if selected .campaignKsName then c.ksName else none
  status := if selected .campaignStatus then c.status else none
  createDate := if selected .campaignCreateDate then c.createDate else none
  lastUpdated := if selected .campaignLastUpdated then c.lastUpdated else none

/-- The ad group with the fields of the selected columns only, in the campaign that it embeds too. -/
def AdGroup.cleared (selected : Column → Bool) (a : AdGroup) : AdGroup where
  id := if selected .adGroupId then a.id else none
  campaignId := if selected .adGroupCampaignId then a.campaignId else none
  campaign := a.campaign.map (Campaign.cleared selected)
  name := if selected .adGroupName then a.name else none
  status := if selected .adGroupStatus then a.status else none
  createDate := if selected .adGroupCreateDate then a.createDate else none
  lastUpdated := if selected .adGroupLastUpdated then a.lastUpdated else none

/-- The campaign and its ad groups with the fields of the selected columns only. -/
def CampaignResult.cleared (selected : Column → Bool) (x : CampaignResult) : CampaignResult :=
  ⟨x.campaign.cleared selected, x.adGroups.map (AdGroup.cleared selected)⟩

/-- What is built from some columns of a row is what is built from all of them, cleared. -/
def Clears (α : Type) [Entity α] (clear : (Column → Bool) → α → α) : Prop :=
  ∀ (row : Row) (columns : List Column) (selected : Column → Bool),
    (∀ x ∈ (Entity.kind α).columns, columns.contains x = selected x) →
      row.build columns = clear selected (row.build (Entity.kind α).columns)

theorem clears_campaign : Clears Campaign Campaign.cleared := by
  intro row columns selected h
  simp only [Entity.kind, Kind.columns, List.forall_mem_cons] at h
  rw [Row.build_campaign, Row.build_campaign]
  simp [Row.campaign, Campaign.cleared, Entity.kind, Kind.columns, ← h]

theorem clears_adGroup : Clears AdGroup AdGroup.cleared := by
  intro row columns selected h
  simp only [Entity.kind, Kind.columns, List.forall_mem_cons] at h
  rw [Row.build_adGroup, Row.build_adGroup]
  simp [Row.adGroup, AdGroup.cleared, Entity.kind, Kind.columns, ← h]

/-! ## Fetching with all columns -/

section

variable {P R : Type} [Entity P] [Entity R] {m : MemoryStore} {s : FetchSettings} {r : Request}

/-- The groups of a request with the fields of all columns. -/
def MemoryStore.fullGroups (P R : Type) [Entity P] [Entity R] (m : MemoryStore) (s : FetchSettings)
    (r : Request) : List (Group P R) :=
  let q := s.joinQuery (Entity.kind P) r
  assemble (Entity.kind P).columns (Entity.kind R).columns
    (FetchSettings.groupLimit (s.capLimit r.limit))
    (s.direction (Entity.kind P)).keepRowsWithoutRelated ((m.joinedRows q).filter q.accepts)

/-- An accepted request is given the full groups, cleared. -/
theorem fetchGroups_fields {clearP : (Column → Bool) → P → P} {clearR : (Column → Bool) → R → R}
    (hP : Clears P clearP) (hR : Clears R clearR) (hKind : Entity.kind R = (Entity.kind P).other)
    (hAccepted : r.Accepted) (db : ScriptedDatabase) :
    ((fetchGroups P R s r).run.run (.ofStore fun q => .ok (m.fetchRows q)) db).1 =
      .ok ((m.fullGroups P R s r).map (Group.map (clearP (s.selects (Entity.kind P) r))
        (clearR (s.selects (Entity.kind P) r)))) := by
  have hIdentity := s.identity_mem_projection (Entity.kind P) r
  rw [fetchGroups_run hAccepted]
  refine congrArg Except.ok (assemble_map ?_ ?_ ?_ _ _)
  · intro row
    rw [primaryId?, Row.get_project, if_pos (hIdentity _), ← primaryId?]
  · intro row
    rw [Row.build_project FetchSettings.own_subset]
    exact hP row _ _ fun x hx => FetchSettings.own_contains hx
  · intro row
    have hBuild : (row.project (s.joinQuery (Entity.kind P) r).projection).build
        (s.relatedColumns (Entity.kind P) r) =
        clearR (s.selects (Entity.kind P) r) (row.build (Entity.kind R).columns) := by
      rw [Row.build_project FetchSettings.related_subset]
      exact hR row _ _ fun x hx => FetchSettings.related_contains (hKind ▸ hx)
    rw [relatedOf, Row.get_project, if_pos (hIdentity _), hBuild, relatedOf]
    split <;> rfl

end

/-! ## Answers -/

/-- The names of all fields of both kinds, each with the word of its kind. -/
def allFields : List String :=
  (Kind.campaign.columns ++ Kind.adGroup.columns).map fun c => c.kind.scopeWord ++ "." ++ c.field

theorem FetchSettings.selects_allFields (s : FetchSettings) (primary : Kind) (r : Request) :
    s.selects primary { r with fields := allFields } = fun _ => true := by
  funext c
  rw [selects, decide_eq_true_eq]
  exact .inl (.inr ⟨_, List.mem_map.mpr ⟨c, mem_columns_append c, rfl⟩, .inl rfl⟩)

namespace MemoryStore

def campaignsFor (m : MemoryStore) (s : FetchSettings) (r : Request) :
    Except FetchFault (List CampaignResult) :=
  ((fetchCampaigns s r).run.run (.ofStore fun q => .ok (m.fetchRows q)) (.start .down)).1

def adGroupsFor (m : MemoryStore) (s : FetchSettings) (r : Request) :
    Except FetchFault (List AdGroup) :=
  ((fetchAdGroups s r).run.run (.ofStore fun q => .ok (m.fetchRows q)) (.start .down)).1

variable (m : MemoryStore) (s : FetchSettings) (r : Request)

/-- A campaign and all its ad groups, with the fields of all columns. -/
def fullCampaigns : Except FetchFault (List CampaignResult) :=
  match r.refusal? with
  | some fault => .error fault
  | none => .ok ((m.fullGroups Campaign AdGroup s r).map fun g => ⟨g.primary, g.related⟩)

/-- The ad groups with their campaigns, with the fields of all columns. -/
def fullAdGroups : Except FetchFault (List AdGroup) :=
  match r.refusal? with
  | some fault => .error fault
  | none => .ok ((m.fullGroups AdGroup Campaign s r).map fun g =>
      { g.primary with campaign := g.related.head? })

theorem fullCampaigns_fields (fields : List String) :
    m.fullCampaigns s { r with fields } = m.fullCampaigns s r := rfl

theorem fullAdGroups_fields (fields : List String) :
    m.fullAdGroups s { r with fields } = m.fullAdGroups s r := rfl

theorem campaignsFor_eq :
    m.campaignsFor s r =
      (m.fullCampaigns s r).map (List.map (CampaignResult.cleared (s.selects .campaign r))) := by
  unfold campaignsFor fullCampaigns
  rw [fetchCampaigns_run]
  cases hRefusal : r.refusal? with
  | some fault =>
    rw [fetchGroups_of_refusal hRefusal]
    rfl
  | none =>
    have hAccepted := Request.refusal?_eq_none_iff.mp hRefusal
    dsimp only
    rw [fetchGroups_fields clears_campaign clears_adGroup rfl hAccepted]
    simp [Except.map, Group.map, CampaignResult.cleared, Entity.kind]

theorem adGroupsFor_eq :
    m.adGroupsFor s r =
      (m.fullAdGroups s r).map (List.map (AdGroup.cleared (s.selects .adGroup r))) := by
  unfold adGroupsFor fullAdGroups
  rw [fetchAdGroups_run]
  cases hRefusal : r.refusal? with
  | some fault =>
    rw [fetchGroups_of_refusal hRefusal]
    rfl
  | none =>
    have hAccepted := Request.refusal?_eq_none_iff.mp hRefusal
    dsimp only
    rw [fetchGroups_fields clears_adGroup clears_campaign rfl hAccepted]
    simp [Except.map, Group.map, AdGroup.cleared, Entity.kind]

end MemoryStore

/-- The identities of a campaign and of its ad groups. -/
def CampaignResult.ids (x : CampaignResult) : Option Int × List (Option Int) :=
  (x.campaign.id, x.adGroups.map (·.id))

/-- The identities of an ad group and of the campaign that it embeds. -/
def AdGroup.ids (a : AdGroup) : Option Int × Option (Option Int) := (a.id, a.campaign.map (·.id))

theorem Campaign.id_cleared {selected : Column → Bool} (h : ∀ k : Kind, selected k.identity = true)
    (c : Campaign) : (c.cleared selected).id = c.id := if_pos (h .campaign)

theorem AdGroup.id_cleared {selected : Column → Bool} (h : ∀ k : Kind, selected k.identity = true)
    (a : AdGroup) : (a.cleared selected).id = a.id := if_pos (h .adGroup)

theorem CampaignResult.ids_cleared {selected : Column → Bool}
    (h : ∀ k : Kind, selected k.identity = true) (x : CampaignResult) :
    (x.cleared selected).ids = x.ids := by
  simp [ids, cleared, Campaign.id_cleared h, AdGroup.id_cleared h, Function.comp_def]

theorem AdGroup.ids_cleared {selected : Column → Bool}
    (h : ∀ k : Kind, selected k.identity = true) (a : AdGroup) :
    (a.cleared selected).ids = a.ids := by
  have hEmbedded : (a.cleared selected).campaign = a.campaign.map (Campaign.cleared selected) := rfl
  simp [ids, AdGroup.id_cleared h, hEmbedded, Campaign.id_cleared h, Function.comp_def]

theorem Campaign.cleared_all (c : Campaign) : c.cleared (fun _ => true) = c := rfl

theorem AdGroup.cleared_all (a : AdGroup) : a.cleared (fun _ => true) = a := by
  have hEmbedded : a.campaign.map (Campaign.cleared fun _ => true) = a.campaign := by
    cases a.campaign <;> rfl
  simp [cleared, hEmbedded]

theorem CampaignResult.cleared_all (x : CampaignResult) : x.cleared (fun _ => true) = x := by
  simp [cleared, Campaign.cleared_all, funext AdGroup.cleared_all]

section

variable {ε α β γ : Type}

theorem Except.map_map_list (x : Except ε (List α)) (f : α → β) (g : β → γ) :
    (x.map (List.map f)).map (List.map g) = x.map (List.map (g ∘ f)) := by
  cases x <;> simp [Except.map]

end

/-- In either direction and from any store, requests that differ in their fields alone are refused
alike or answered with the same identities in the same places. The answer to each is the answer to
the request for all fields, in which the fields that are not selected are cleared. -/
theorem answers_cleared (m : MemoryStore) (s : FetchSettings) (r : Request)
    (fields others : List String) :
    (m.campaignsFor s { r with fields }).map (List.map CampaignResult.ids) =
        (m.campaignsFor s { r with fields := others }).map (List.map CampaignResult.ids) ∧
      (m.adGroupsFor s { r with fields }).map (List.map AdGroup.ids) =
        (m.adGroupsFor s { r with fields := others }).map (List.map AdGroup.ids) ∧
      m.campaignsFor s { r with fields } =
        (m.campaignsFor s { r with fields := allFields }).map
          (List.map (CampaignResult.cleared (s.selects .campaign { r with fields }))) ∧
      m.adGroupsFor s { r with fields } =
        (m.adGroupsFor s { r with fields := allFields }).map
          (List.map (AdGroup.cleared (s.selects .adGroup { r with fields }))) := by
  have hCampaignIds : ∀ names, (m.campaignsFor s { r with fields := names }).map
      (List.map CampaignResult.ids) = (m.fullCampaigns s r).map (List.map CampaignResult.ids) := by
    intro names
    rw [m.campaignsFor_eq, Except.map_map_list, m.fullCampaigns_fields]
    exact congrArg (fun f => (m.fullCampaigns s r).map (List.map f))
      (funext (CampaignResult.ids_cleared (s.selects_identity _ _)))
  have hAdGroupIds : ∀ names, (m.adGroupsFor s { r with fields := names }).map
      (List.map AdGroup.ids) = (m.fullAdGroups s r).map (List.map AdGroup.ids) := by
    intro names
    rw [m.adGroupsFor_eq, Except.map_map_list, m.fullAdGroups_fields]
    exact congrArg (fun f => (m.fullAdGroups s r).map (List.map f))
      (funext (AdGroup.ids_cleared (s.selects_identity _ _)))
  refine ⟨by rw [hCampaignIds, hCampaignIds], by rw [hAdGroupIds, hAdGroupIds], ?_, ?_⟩
  · rw [m.campaignsFor_eq, m.campaignsFor_eq, s.selects_allFields, Except.map_map_list,
      funext CampaignResult.cleared_all, m.fullCampaigns_fields, m.fullCampaigns_fields]
    rfl
  · rw [m.adGroupsFor_eq, m.adGroupsFor_eq, s.selects_allFields, Except.map_map_list,
      funext AdGroup.cleared_all, m.fullAdGroups_fields, m.fullAdGroups_fields]
    rfl

end CampaignFetch

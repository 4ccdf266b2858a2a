import CampaignFetch.Database.Script
import CampaignFetch.Proofs.FetchPlans
import CampaignFetch.Proofs.StoreBlocks

/-!
# What a fetch answers

The answers are said here without rows of columns, grouping or projections:
`MemoryStore.campaignAnswer` goes over the campaigns, `MemoryStore.adGroupAnswer` over the pairs of
an ad group and its campaign, and both keep what the filters accept.

* `fetchGroups_blocks`: a fetch from a store whose rows come in blocks.
* `fetchCampaigns_answer`, `fetchAdGroups_answer`: on a store whose identities are keys, a fetch
  gives exactly the answer.
-/

namespace CampaignFetch

/-! ## Answers -/

/-- Whether a request selects a column in the direction of a primary kind. -/
def FetchSettings.selects (s : FetchSettings) (primary : Kind) (r : Request) (x : Column) : Bool :=
  x.SelectedBy primary (s.direction primary).allFieldsWhenEmpty r.fields

/-- Whether the filters of a request hold on what a row stands for. -/
def Request.keeps (r : Request) (primary : Kind) (j : Joined) : Bool :=
  Filter.AllAccept primary r.filters j.text?

namespace MemoryStore

/-- The entries of a campaign's ad groups in the answer to a request. -/
def shownAdGroups (m : MemoryStore) (s : FetchSettings) (r : Request) (c : Campaign) :
    List AdGroup :=
  (sortById (·.id? .adGroup) ((m.campaignBlock c).filter (r.keeps .campaign))).flatMap fun j =>
    match j.adGroup with
    | some a => [a.shown (s.selects .campaign r)]
    | none => if s.campaign.keepRowsWithoutRelated then [AdGroup.blank] else []

/-- The answer to a fetch of campaigns: those with a row that the filters accept. -/
def campaignAnswer (m : MemoryStore) (s : FetchSettings) (r : Request) : List CampaignResult :=
  let kept := m.campaigns.filter fun c => (m.campaignBlock c).any (r.keeps .campaign)
  ((sortById (·.id) kept).take (s.capLimit r.limit).toNat).map fun c =>
    ⟨c.shown (s.selects .campaign r), m.shownAdGroups s r c⟩

/-- The answer to a fetch of ad groups: those with a campaign that the filters accept together. -/
def adGroupAnswer (m : MemoryStore) (s : FetchSettings) (r : Request) : List AdGroup :=
  let kept := m.pairs.filter fun (a, c) => r.keeps .adGroup ⟨some c, some a⟩
  ((sortById (·.1.id) kept).take (s.capLimit r.limit).toNat).map fun (a, c) =>
    { a.shown (s.selects .adGroup r) with campaign := some (c.shown (s.selects .adGroup r)) }

end MemoryStore

/-! ## Selected columns -/

namespace FetchSettings

variable {s : FetchSettings} {primary : Kind} {r : Request}

theorem own_contains {x : Column} (hKind : x ∈ primary.columns) :
    (s.ownColumns primary r).contains x = s.selects primary r x := by
  rw [Bool.eq_iff_iff, List.contains_iff_mem, ownColumns, mem_selected_own_iff, selects,
    decide_eq_true_eq]
  exact and_iff_right (mem_columns_iff.mp hKind)

theorem related_contains {x : Column} (hKind : x ∈ primary.other.columns) :
    (s.relatedColumns primary r).contains x = s.selects primary r x := by
  rw [Bool.eq_iff_iff, List.contains_iff_mem, relatedColumns, mem_selected_related_iff, selects,
    decide_eq_true_eq]
  exact and_iff_right (mem_columns_iff.mp hKind)

theorem accepts_row (hSupported : ∀ f ∈ r.filters, f.Supported) (j : Joined) :
    (s.joinQuery primary r).accepts j.row = r.keeps primary j := by
  rw [Bool.eq_iff_iff, joinQuery, accepts_iff hSupported, Request.keeps, decide_eq_true_eq,
    funext j.text?_row]

end FetchSettings

/-! ## Groups -/

section

variable {P R α : Type} [Entity P] [Entity R] {block : List Joined} {projection : List Column}

theorem build_blockRows {related : Kind} {p : Joined → Bool} {own : List Column} {x : P}
    (hOwn : own ⊆ projection) (hBuild : ∀ j ∈ block, j.row.build own = x)
    (hAny : ∃ j ∈ block, p j = true) :
    ((blockRows related p projection block).headD Row.empty).build own = x := by
  obtain ⟨j, hj, hp⟩ := hAny
  have hMem : j ∈ sortById (·.id? related) (block.filter p) :=
    mem_sortById.mpr (List.mem_filter.mpr ⟨hj, hp⟩)
  unfold blockRows
  cases hSorted : sortById (·.id? related) (block.filter p) with
  | nil =>
    rw [hSorted] at hMem
    cases hMem
  | cons k rest =>
    have hk : k ∈ sortById (·.id? related) (block.filter p) := hSorted ▸ List.mem_cons_self
    rw [List.map_cons, List.headD_cons, Row.build_project hOwn]
    exact hBuild k (List.mem_filter.mp (mem_sortById.mp hk)).1

theorem relatedOf_project {related : List Column} {keep : Bool} (j : Joined)
    (hIdentity : (Entity.kind R).identity ∈ projection) (hRelated : related ⊆ projection) :
    relatedOf R related keep (j.row.project projection) =
      if (j.id? (Entity.kind R)).isNone && !keep then [] else [j.row.build related] := by
  rw [relatedOf, Row.get_project, if_pos hIdentity, j.get_identity, Row.build_project hRelated]
  cases j.id? (Entity.kind R) <;> rfl

end

section

variable {m : MemoryStore} {s : FetchSettings} {r : Request}

/-- A fetch from a store whose rows come in blocks gives a group for each block with rows that the
filters accept. -/
theorem fetchGroups_blocks {P R α : Type} [Entity P] [Entity R] {id? : α → Option Int}
    {block : α → List Joined} {l : List α} (hBlocks : Blocks (Entity.kind P) id? block l)
    (hCap : s.CapNonneg) (hAccepted : r.Accepted)
    (hRows : m.fetchRows (s.joinQuery (Entity.kind P) r) =
      rowsInOrder (Entity.kind P) (fun j => (s.joinQuery (Entity.kind P) r).accepts j.row)
        (s.joinQuery (Entity.kind P) r).projection (l.flatMap block))
    (db : ScriptedDatabase) :
    (fetchGroups P R s r).run.run (.ofStore fun q => .ok (m.fetchRows q)) db =
      (.ok (((found id? block (r.keeps (Entity.kind P)) l).take (s.capLimit r.limit).toNat).map
        fun x => .ofRows (s.ownColumns (Entity.kind P) r) (s.relatedColumns (Entity.kind P) r)
          (s.direction (Entity.kind P)).keepRowsWithoutRelated
          (blockRows (Entity.kind P).other (r.keeps (Entity.kind P))
            (s.joinQuery (Entity.kind P) r).projection (block x))), db) := by
  have hKeeps : (fun j => (s.joinQuery (Entity.kind P) r).accepts j.row) =
      r.keeps (Entity.kind P) := funext (FetchSettings.accepts_row hAccepted.2)
  have hAssemble := assemble_blocks (R := R) hBlocks (r.keeps (Entity.kind P))
    (s.identity_mem_projection (Entity.kind P) r (Entity.kind P))
    (s.ownColumns (Entity.kind P) r) (s.relatedColumns (Entity.kind P) r)
    (s.direction (Entity.kind P)).keepRowsWithoutRelated (s.capLimit r.limit).toNat
  rw [hKeeps] at hRows
  rw [← hAssemble, ← hRows, ← FetchSettings.groupLimit_of_capNonneg hCap hAccepted.1]
  simp only [fetchGroups, FetchSettings.plan_eq hAccepted]
  rfl

/-- Two campaigns of which one has ad groups, and an ad group whose campaign is not there. -/
def MemoryStore.sample : MemoryStore where
  campaigns := [.sample 2 "Trial" "core" .paused, .sample 1 "Brand" "core" .active]
  adGroups := [.sample 9 1 "Display" .paused, .sample 7 1 "Search" .active,
    .sample 8 5 "Orphan" .active]

/-- A request for names of both kinds, with a filter on the status of ad groups and one that means
no column. -/
def Request.sample : Request where
  fields := ["name", "adGroup.status"]
  filters := [⟨"adGroup.status", .equals, ["active", "deleted"]⟩, ⟨"colour", .isIn, []⟩]
  limit := 5

namespace MemoryStore.Keyed

theorem keyed_sample : sample.Keyed :=
  ⟨by decide, by decide, by decide, by decide⟩

theorem shownAdGroups_eq (h : m.Keyed) {c : Campaign} (hc : c ∈ m.campaigns) :
    (blockRows .adGroup (r.keeps .campaign) (s.joinQuery .campaign r).projection
        (m.campaignBlock c)).flatMap
      (relatedOf AdGroup (s.relatedColumns .campaign r) s.campaign.keepRowsWithoutRelated) =
      m.shownAdGroups s r c := by
  rw [blockRows, List.flatMap_map, shownAdGroups]
  refine List.flatMap_congr fun j hj => ?_
  have hBlock : j ∈ m.campaignBlock c := (List.mem_filter.mp (mem_sortById.mp hj)).1
  rw [relatedOf_project j (s.identity_mem_projection _ _ _) FetchSettings.related_subset]
  have hFits := h.campaignBlocks.fits c hc j hBlock
  cases hAdGroup : j.adGroup with
  | none =>
    rw [Joined.build_adGroup_none hAdGroup]
    cases s.campaign.keepRowsWithoutRelated <;> simp [Joined.id?, Entity.kind, hAdGroup]
  | some a =>
    obtain ⟨n, hn, -⟩ :=
      h.adGroupId a (mem_adGroupsOf.mp ((mem_campaignBlock hBlock).2 a hAdGroup)).1
    have hId : j.id? (Entity.kind AdGroup) = some n := by
      simpa [Joined.id?, Entity.kind, hAdGroup] using hn
    rw [Joined.build_adGroup hFits hAdGroup, hId,
      AdGroup.shown_congr fun x hx => FetchSettings.related_contains hx]
    rfl

theorem head?_relatedOf (h : m.Keyed) {x : AdGroup × Campaign} (hx : x ∈ m.pairs)
    (hAny : ∃ j ∈ pairBlock x, r.keeps .adGroup j = true) {keep : Bool} :
    ((blockRows .campaign (r.keeps .adGroup) (s.joinQuery .adGroup r).projection
        (pairBlock x)).flatMap (relatedOf Campaign (s.relatedColumns .adGroup r) keep)).head? =
      some (x.2.shown (s.selects .adGroup r)) := by
  obtain ⟨j, hj, hKeeps⟩ := hAny
  obtain rfl := List.mem_singleton.mp hj
  obtain ⟨n, hn, -⟩ := h.campaignId x.2 (mem_pairs.mp hx).1.2
  have hId : Joined.id? ⟨some x.2, some x.1⟩ (Entity.kind Campaign) = some n := by
    simpa [Joined.id?, Entity.kind] using hn
  have hRows : blockRows .campaign (r.keeps .adGroup) (s.joinQuery .adGroup r).projection
      (pairBlock x) =
      [Row.project (Joined.row ⟨some x.2, some x.1⟩) (s.joinQuery .adGroup r).projection] := by
    simp [blockRows, pairBlock, hKeeps, sortById]
  rw [hRows, List.flatMap_singleton,
    relatedOf_project _ (s.identity_mem_projection _ _ _) FetchSettings.related_subset, hId,
    Joined.build_campaign (h.pairBlocks.fits x hx _ List.mem_cons_self) rfl,
    Campaign.shown_congr fun c hc => FetchSettings.related_contains hc]
  rfl

/-- A fetch of campaigns from a store whose identities are keys gives exactly the answer: the
campaigns with a pair that the filters accept, ascending, with their ad groups. -/
theorem fetchCampaigns_answer (h : m.Keyed) (hCap : s.CapNonneg) (hAccepted : r.Accepted)
    (db : ScriptedDatabase) :
    (fetchCampaigns s r).run.run (.ofStore fun q => .ok (m.fetchRows q)) db =
      (.ok (m.campaignAnswer s r), db) := by
  have hGroups := fetchGroups_blocks (P := Campaign) (R := AdGroup) h.campaignBlocks hCap hAccepted
    (h.fetchRows_campaign rfl rfl) db
  rw [fetchCampaigns_run, hGroups]
  refine Prod.ext (congrArg Except.ok ?_) rfl
  rw [List.map_map, campaignAnswer, ← found]
  refine List.map_congr_left fun c hc => ?_
  obtain ⟨hMem, hAny⟩ := mem_found.mp (List.mem_of_mem_take hc)
  have hBuild : ∀ j ∈ m.campaignBlock c, j.row.build (s.ownColumns .campaign r) =
      c.shown (s.selects .campaign r) := fun j hj => by
    rw [Joined.build_campaign (h.campaignBlocks.fits c hMem j hj) (mem_campaignBlock hj).1,
      Campaign.shown_congr fun x hx => FetchSettings.own_contains hx]
  simp only [Function.comp_apply, Group.ofRows, CampaignResult.mk.injEq]
  exact ⟨build_blockRows FetchSettings.own_subset hBuild hAny, h.shownAdGroups_eq hMem⟩

/-- With campaigns first, an ad group that a filter drops leaves no trace, and a campaign without
ad groups does not satisfy a filter on them. -/
theorem fetchCampaigns_sample :
    sample.Keyed ∧
      (fetchCampaigns .standard .sample).run.run (.ofStore fun q => .ok (sample.fetchRows q))
          (.start .down) =
        (.ok [⟨{ Campaign.blank with id := some 1, name := some "Brand" },
          [{ AdGroup.blank with id := some 7, status := some .active }]⟩], .start .down) := by
  have hAnswer : sample.campaignAnswer .standard .sample =
      [⟨{ Campaign.blank with id := some 1, name := some "Brand" },
        [{ AdGroup.blank with id := some 7, status := some .active }]⟩] := by
    decide +kernel
  rw [← hAnswer]
  exact ⟨keyed_sample, fetchCampaigns_answer keyed_sample (by decide) (by decide) _⟩

/-- A fetch of ad groups from a store whose identities are keys gives exactly the answer: the ad
groups that the filters accept together with their campaign, ascending, each once. -/
theorem fetchAdGroups_answer (h : m.Keyed) (hCap : s.CapNonneg) (hAccepted : r.Accepted)
    (db : ScriptedDatabase) :
    (fetchAdGroups s r).run.run (.ofStore fun q => .ok (m.fetchRows q)) db =
        (.ok (m.adGroupAnswer s r), db) ∧
      ((m.adGroupAnswer s r).map (·.id)).Nodup := by
  constructor
  · have hGroups := fetchGroups_blocks (P := AdGroup) (R := Campaign) h.pairBlocks hCap hAccepted
      (h.fetchRows_adGroup rfl rfl) db
    rw [fetchAdGroups_run, hGroups]
    refine Prod.ext (congrArg Except.ok ?_) rfl
    have hKept : found (·.1.id) pairBlock (r.keeps .adGroup) m.pairs =
        sortById (·.1.id) (m.pairs.filter fun x => r.keeps .adGroup ⟨some x.2, some x.1⟩) := by
      simp [found, pairBlock]
    rw [List.map_map, adGroupAnswer, ← hKept]
    refine List.map_congr_left fun x hx => ?_
    obtain ⟨hMem, hAny⟩ := mem_found.mp (List.mem_of_mem_take hx)
    have hFits := h.pairBlocks.fits x hMem _ List.mem_cons_self
    have hBuild : ∀ j ∈ pairBlock x, j.row.build (s.ownColumns .adGroup r) =
        x.1.shown (s.selects .adGroup r) := fun j hj => by
      rw [List.mem_singleton.mp hj, Joined.build_adGroup hFits rfl,
        AdGroup.shown_congr fun c hc => FetchSettings.own_contains hc]
    exact congrArg₂ (fun (a : AdGroup) embedded => { a with campaign := embedded })
      (build_blockRows FetchSettings.own_subset hBuild hAny) (h.head?_relatedOf hMem hAny)
  · have hNodup : ((sortById (·.1.id) (m.pairs.filter fun x =>
        r.keeps .adGroup ⟨some x.2, some x.1⟩)).map (·.1.id)).Nodup :=
      (((List.mergeSort_perm _ _).map _).nodup_iff).mpr
        (h.nodup_pairs.sublist (List.filter_sublist.map _))
    have hIds : ∀ x : AdGroup × Campaign,
        (x.1.shown (s.selects .adGroup r)).id = x.1.id := fun x => by
      rw [AdGroup.shown, if_pos (by
        rw [FetchSettings.selects, decide_eq_true_eq]
        exact .inl (.inl rfl))]
    rw [adGroupAnswer, List.map_map]
    refine (congrArg List.Nodup (List.map_congr_left fun x _ => hIds x)).mpr ?_
    exact hNodup.sublist ((List.take_sublist _ _).map _)

/-- With ad groups first, one whose campaign is not there is never given, and the embedded campaign
has all its fields when no name asks for one of them. -/
theorem fetchAdGroups_sample :
    sample.Keyed ∧
      (fetchAdGroups .standard .sample).run.run (.ofStore fun q => .ok (sample.fetchRows q))
          (.start .down) =
        (.ok [{ AdGroup.blank with
          id := some 7
          campaign := some (.sample 1 "Brand" "core" .active)
          name := some "Search"
          status := some .active }], .start .down) := by
  have hAnswer : sample.adGroupAnswer .standard .sample =
      [{ AdGroup.blank with
        id := some 7
        campaign := some (.sample 1 "Brand" "core" .active)
        name := some "Search"
        status := some .active }] := by
    decide +kernel
  rw [← hAnswer]
  exact ⟨keyed_sample, (fetchAdGroups_answer keyed_sample (by decide) (by decide) _).1⟩

end MemoryStore.Keyed

end

end CampaignFetch

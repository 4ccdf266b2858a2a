import CampaignFetch.Proofs.FetchAnswers
import Mathlib.Data.List.Perm.Subperm

/-!
# The two directions of a fetch

A fetch of campaigns and a fetch of ad groups join the same two tables, and each of their answers
is a list of pairs of a campaign and an ad group. When no name of a request is left to the
direction, the pairs are the same.

* `MemoryStore.keptPairs` are the pairs of a store that the filters of a request accept together.
* `Keyed.pairs_fetchCampaigns`, `Keyed.pairs_fetchAdGroups`: without a limit that binds, the pairs
  of either answer are what the request shows of the kept pairs.
* `Request.keeps_eq`, `FetchSettings.selects_eq`: with prefixed names the kept pairs and the shown
  columns do not depend on the direction.
* `Keyed.directions_agree`: the pairs of the two answers are the same.
-/

namespace CampaignFetch

/-! ## Pairs of an answer -/

/-- The pairs of a result, one for each of its ad groups with an identity. -/
def CampaignResult.pairs (x : CampaignResult) : List (Option Campaign × AdGroup) :=
  (x.adGroups.filter (·.id.isSome)).map fun a => (some x.campaign, a)

/-- The campaign that an ad group embeds, and the ad group apart from it. -/
def AdGroup.pair (a : AdGroup) : Option Campaign × AdGroup :=
  (a.campaign, { a with campaign := none })

/-- The identities on both sides of a pair. -/
def pairIds (x : Option Campaign × AdGroup) : Option Int × Option Int := (x.1.bind (·.id), x.2.id)

/-- What is shown of an ad group and its campaign. -/
def shownPair (selected : Column → Bool) (x : AdGroup × Campaign) : Option Campaign × AdGroup :=
  (some (x.2.shown selected), x.1.shown selected)

/-- The identities in the order of a pair that is shown. -/
def storedIds (x : AdGroup × Campaign) : Option Int × Option Int := (x.2.id, x.1.id)

theorem FetchSettings.selects_identity (s : FetchSettings) (primary : Kind) (r : Request)
    (k : Kind) : s.selects primary r k.identity = true := by
  rw [selects, decide_eq_true_eq]
  exact .inl (.inl (by rw [k.identity_kind]))

theorem pairIds_shownPair (s : FetchSettings) (primary : Kind) (r : Request)
    (x : AdGroup × Campaign) : pairIds (shownPair (s.selects primary r) x) = storedIds x := by
  have hCampaign := s.selects_identity primary r .campaign
  have hAdGroup := s.selects_identity primary r .adGroup
  simp only [Kind.identity] at hCampaign hAdGroup
  simp [pairIds, shownPair, storedIds, Campaign.shown, AdGroup.shown, hCampaign, hAdGroup]

/-! ## Limits that do not bind -/

/-- Without a cap, and with a limit as great as the number of entities, a fetch gives a group for
each of those with rows that the filters accept. -/
theorem fetchGroups_found {P R α : Type} [Entity P] [Entity R] {m : MemoryStore}
    {s : FetchSettings} {r : Request} {id? : α → Option Int} {block : α → List Joined} {l : List α}
    (hBlocks : Blocks (Entity.kind P) id? block l) (hCap : s.maxLimit = none)
    (hAccepted : r.Accepted) (hLimit : (l.length : Int) ≤ r.limit)
    (hRows : m.fetchRows (s.joinQuery (Entity.kind P) r) =
      rowsInOrder (Entity.kind P) (fun j => (s.joinQuery (Entity.kind P) r).accepts j.row)
        (s.joinQuery (Entity.kind P) r).projection (l.flatMap block))
    (db : ScriptedDatabase) :
    (fetchGroups P R s r).run.run (.ofStore fun q => .ok (m.fetchRows q)) db =
      (.ok ((found id? block (r.keeps (Entity.kind P)) l).map fun x =>
        .ofRows (s.ownColumns (Entity.kind P) r) (s.relatedColumns (Entity.kind P) r)
          (s.direction (Entity.kind P)).keepRowsWithoutRelated
          (blockRows (Entity.kind P).other (r.keeps (Entity.kind P))
            (s.joinQuery (Entity.kind P) r).projection (block x))), db) := by
  have hLength : (found id? block (r.keeps (Entity.kind P)) l).length ≤ l.length := by
    rw [found, sortById, List.length_mergeSort]
    exact List.length_filter_le _ _
  have hBound : (s.capLimit r.limit).toNat = r.limit.toNat := by
    rw [FetchSettings.capLimit, hCap]
  have hCapNonneg : s.CapNonneg := by
    intro cap hMax
    rw [hCap] at hMax
    cases hMax
  rw [fetchGroups_blocks hBlocks hCapNonneg hAccepted hRows db, hBound,
    List.take_of_length_le (by omega)]

namespace MemoryStore

/-- The ad groups with their campaigns that the filters accept together. -/
def keptPairs (m : MemoryStore) (primary : Kind) (r : Request) : List (AdGroup × Campaign) :=
  m.pairs.filter fun x => r.keeps primary ⟨some x.2, some x.1⟩

/-- The kept pairs of one campaign, by the identity of the ad group. -/
def linkedPairs (m : MemoryStore) (r : Request) (c : Campaign) : List (AdGroup × Campaign) :=
  (sortById (·.id? .adGroup) ((m.campaignBlock c).filter (r.keeps .campaign))).filterMap
    fun j => j.adGroup.map fun a => (a, c)

section

variable {m : MemoryStore} {s : FetchSettings} {r : Request}

theorem linkedPairs_perm (m : MemoryStore) (r : Request) (c : Campaign) :
    (m.linkedPairs r c).Perm
      (((m.adGroupsOf c).filter fun a => r.keeps .campaign ⟨some c, some a⟩).map (·, c)) := by
  have hSorted := (List.mergeSort_perm ((m.campaignBlock c).filter (r.keeps .campaign))
    fun j k => idLe (j.id? .adGroup) (k.id? .adGroup)).filterMap fun j =>
      j.adGroup.map fun a => (a, c)
  refine hSorted.trans (List.Perm.of_eq ?_)
  unfold campaignBlock
  split
  · rename_i hNil
    rw [hNil, List.filter_cons]
    split <;> rfl
  · rw [List.filter_map, List.filterMap_map]
    exact congrFun List.filterMap_eq_map _

theorem mem_linkedPairs {c : Campaign} {x : AdGroup × Campaign} :
    x ∈ m.linkedPairs r c ↔
      x.1 ∈ m.adGroupsOf c ∧ r.keeps .campaign ⟨some c, some x.1⟩ = true ∧ x.2 = c := by
  obtain ⟨a, d⟩ := x
  rw [(linkedPairs_perm m r c).mem_iff, List.mem_map]
  simp only [List.mem_filter, Prod.mk.injEq]
  constructor
  · rintro ⟨b, ⟨hOf, hKeeps⟩, rfl, rfl⟩
    exact ⟨hOf, hKeeps, rfl⟩
  · rintro ⟨hOf, hKeeps, rfl⟩
    exact ⟨a, ⟨hOf, hKeeps⟩, rfl, rfl⟩

namespace Keyed

theorem nodup_linkedPairs (h : m.Keyed) (c : Campaign) : (m.linkedPairs r c).Nodup := by
  rw [(linkedPairs_perm m r c).nodup_iff]
  refine ((h.adGroupDistinct.of_map.filter _).filter _).map fun a b hEq => ?_
  exact (Prod.mk.inj hEq).1

/-- Campaign by campaign, the kept pairs are all found. -/
theorem flatMap_linkedPairs_perm (h : m.Keyed) :
    ((found (·.id) m.campaignBlock (r.keeps .campaign) m.campaigns).flatMap
      (m.linkedPairs r)).Perm (m.keptPairs .campaign r) := by
  have hFound : (found (·.id) m.campaignBlock (r.keeps .campaign) m.campaigns).Nodup :=
    (List.mergeSort_perm _ _).nodup_iff.mpr (h.campaignDistinct.of_map.filter _)
  refine (List.perm_ext_iff_of_nodup ?_ (h.nodup_pairs.of_map.filter _)).mpr fun x => ?_
  · refine List.nodup_flatMap.mpr ⟨fun c _ => h.nodup_linkedPairs c, hFound.imp ?_⟩
    intro c d hNe x hxc hxd
    exact hNe ((mem_linkedPairs.mp hxc).2.2.symm.trans (mem_linkedPairs.mp hxd).2.2)
  · obtain ⟨a, c⟩ := x
    simp only [List.mem_flatMap, List.mem_filter, mem_pairs, mem_linkedPairs,
      mem_adGroupsOf]
    constructor
    · rintro ⟨d, hd, ⟨ha, hRefers⟩, hKeeps, rfl⟩
      exact ⟨⟨⟨ha, (mem_found.mp hd).1⟩, hRefers.symm⟩, hKeeps⟩
    · rintro ⟨⟨⟨ha, hc⟩, hRefers⟩, hKeeps⟩
      have hOf : a ∈ m.adGroupsOf c := mem_adGroupsOf.mpr ⟨ha, hRefers.symm⟩
      have hBlock : ⟨some c, some a⟩ ∈ m.campaignBlock c := by
        rw [campaignBlock, if_neg (List.ne_nil_of_mem hOf)]
        exact List.mem_map_of_mem hOf
      exact ⟨c, mem_found.mpr ⟨hc, _, hBlock, hKeeps⟩, ⟨ha, hRefers.symm⟩, hKeeps, rfl⟩

theorem pairs_shownAdGroups (h : m.Keyed) {c : Campaign} :
    CampaignResult.pairs ⟨c.shown (s.selects .campaign r), m.shownAdGroups s r c⟩ =
      (m.linkedPairs r c).map (shownPair (s.selects .campaign r)) := by
  have hIdentity := s.selects_identity .campaign r .adGroup
  simp only [Kind.identity] at hIdentity
  rw [CampaignResult.pairs, shownAdGroups, linkedPairs, List.filter_flatMap, List.map_flatMap,
    List.map_filterMap, List.filterMap_eq_flatMap_toList]
  refine List.flatMap_congr fun j hj => ?_
  have hBlock : j ∈ m.campaignBlock c := (List.mem_filter.mp (mem_sortById.mp hj)).1
  cases hAdGroup : j.adGroup with
  | none => cases s.campaign.keepRowsWithoutRelated <;> simp [AdGroup.blank]
  | some a =>
    obtain ⟨n, hn, -⟩ :=
      h.adGroupId a (mem_adGroupsOf.mp ((mem_campaignBlock hBlock).2 a hAdGroup)).1
    have hShown : (a.shown (s.selects .campaign r)).id = some n := by
      simpa [AdGroup.shown, hIdentity] using hn
    simp [hShown, shownPair]

/-- Without a limit that binds, the pairs of an answer of campaigns are what is shown of the kept
pairs. -/
theorem pairs_fetchCampaigns (h : m.Keyed) (hCap : s.maxLimit = none) (hAccepted : r.Accepted)
    (hLimit : (m.campaigns.length : Int) ≤ r.limit) (db : ScriptedDatabase) :
    ∃ results, (fetchCampaigns s r).run.run (.ofStore fun q => .ok (m.fetchRows q)) db =
        (.ok results, db) ∧
      (results.flatMap CampaignResult.pairs).Perm
        ((m.keptPairs .campaign r).map (shownPair (s.selects .campaign r))) := by
  have hGroups := fetchGroups_found (P := Campaign) (R := AdGroup) h.campaignBlocks hCap hAccepted
    hLimit (h.fetchRows_campaign rfl rfl) db
  refine ⟨_, by rw [fetchCampaigns_run, hGroups]; rfl, ?_⟩
  refine List.Perm.trans (List.Perm.of_eq ?_) (h.flatMap_linkedPairs_perm.map _)
  rw [List.map_map, List.flatMap_map, List.map_flatMap]
  refine List.flatMap_congr fun c hc => ?_
  obtain ⟨hMem, hAny⟩ := mem_found.mp hc
  have hBuild : ∀ j ∈ m.campaignBlock c, j.row.build (s.ownColumns .campaign r) =
      c.shown (s.selects .campaign r) := fun j hj => by
    rw [Joined.build_campaign (h.campaignBlocks.fits c hMem j hj) (mem_campaignBlock hj).1,
      Campaign.shown_congr fun x hx => FetchSettings.own_contains hx]
  rw [← h.pairs_shownAdGroups, ← h.shownAdGroups_eq hMem]
  exact congrArg (fun campaign => CampaignResult.pairs ⟨campaign, _⟩)
    (build_blockRows FetchSettings.own_subset hBuild hAny)

/-- Without a limit that binds, the pairs of an answer of ad groups are what is shown of the kept
pairs. -/
theorem pairs_fetchAdGroups (h : m.Keyed) (hCap : s.maxLimit = none) (hAccepted : r.Accepted)
    (hLimit : (m.adGroups.length : Int) ≤ r.limit) (db : ScriptedDatabase) :
    ∃ results, (fetchAdGroups s r).run.run (.ofStore fun q => .ok (m.fetchRows q)) db =
        (.ok results, db) ∧
      (results.map AdGroup.pair).Perm
        ((m.keptPairs .adGroup r).map (shownPair (s.selects .adGroup r))) := by
  -- every pair has an ad group of its own, so the limit cuts no pair off either
  have hPairs : m.pairs.length ≤ m.adGroups.length := by
    have hSubset : m.pairs.map (·.1.id) ⊆ m.adGroups.map (·.id) := by
      intro id hId
      obtain ⟨x, hx, rfl⟩ := List.mem_map.mp hId
      exact List.mem_map_of_mem (mem_pairs.mp hx).1.1
    have hLength := (h.nodup_pairs.subperm hSubset).length_le
    simpa only [List.length_map] using hLength
  have hGroups := fetchGroups_found (P := AdGroup) (R := Campaign) h.pairBlocks hCap hAccepted
    (by omega) (h.fetchRows_adGroup rfl rfl) db
  refine ⟨_, by rw [fetchAdGroups_run, hGroups]; rfl, ?_⟩
  have hFound : (found (·.1.id) pairBlock (r.keeps .adGroup) m.pairs).Perm
      (m.keptPairs .adGroup r) := by
    have hKept : (m.pairs.filter fun x => (pairBlock x).any (r.keeps .adGroup)) =
        m.keptPairs .adGroup r :=
      List.filter_congr fun x _ => by simp [pairBlock]
    exact hKept ▸ List.mergeSort_perm _ _
  refine List.Perm.trans (List.Perm.of_eq ?_) (hFound.map _)
  rw [List.map_map, List.map_map]
  refine List.map_congr_left fun x hx => ?_
  obtain ⟨hMem, hAny⟩ := mem_found.mp hx
  have hFits := h.pairBlocks.fits x hMem _ List.mem_cons_self
  have hBuild : ∀ j ∈ pairBlock x, j.row.build (s.ownColumns .adGroup r) =
      x.1.shown (s.selects .adGroup r) := fun j hj => by
    rw [List.mem_singleton.mp hj, Joined.build_adGroup hFits rfl,
      AdGroup.shown_congr fun c hc => FetchSettings.own_contains hc]
  exact congrArg₂ (fun (a : AdGroup) embedded => (embedded, { a with campaign := none }))
    (build_blockRows FetchSettings.own_subset hBuild hAny) (h.head?_relatedOf hMem hAny)

end Keyed

end

end MemoryStore

/-! ## Prefixed names -/

/-- A name with a prefix means the same column in both directions. -/
theorem Column.namedBy_iff_of_prefixes {c : Column} {k : Kind} {name : String}
    (h : k.Prefixes name) (primary : Kind) :
    c.NamedBy primary name ↔ name = c.kind.scopeWord ++ "." ++ c.field := by
  unfold Column.NamedBy
  refine or_iff_left ?_
  rintro ⟨-, rfl⟩
  exact c.field_not_prefixed k h

theorem Request.keeps_eq {r : Request}
    (hFilters : ∀ f ∈ r.filters, ∃ k : Kind, k.Prefixes f.field) (k l : Kind) :
    r.keeps k = r.keeps l := by
  have hNamed : ∀ f ∈ r.filters, ∀ c : Column, c.NamedBy k f.field ↔ c.NamedBy l f.field := by
    intro f hf c
    obtain ⟨word, hWord⟩ := hFilters f hf
    rw [Column.namedBy_iff_of_prefixes hWord k, Column.namedBy_iff_of_prefixes hWord l]
  funext j
  rw [Request.keeps, Request.keeps, decide_eq_decide]
  constructor
  · exact fun h f hf c hName => h f hf c ((hNamed f hf c).mpr hName)
  · exact fun h f hf c hName => h f hf c ((hNamed f hf c).mp hName)

/-- With a name for each kind no direction falls back to all of its related columns. -/
theorem FetchSettings.selects_eq {s : FetchSettings} {r : Request}
    (hFields : ∀ name ∈ r.fields, ∃ k : Kind, k.Prefixes name)
    (hBoth : ∀ k : Kind, ∃ name ∈ r.fields, k.Prefixes name) (k l : Kind) :
    s.selects k r = s.selects l r := by
  have hAsked : ∀ primary (c : Column), c.SelectedBy primary
      (s.direction primary).allFieldsWhenEmpty r.fields ↔
        c = c.kind.identity ∨ ∃ name ∈ r.fields, name = c.kind.scopeWord ++ "." ++ c.field := by
    intro primary c
    have hNoFallback : ¬ ∀ name ∈ r.fields, ¬ primary.other.Prefixes name := by
      obtain ⟨name, hName, hPrefixes⟩ := hBoth primary.other
      exact fun h => h name hName hPrefixes
    have hNamed : (∃ name ∈ r.fields, c.NamedBy primary name) ↔
        ∃ name ∈ r.fields, name = c.kind.scopeWord ++ "." ++ c.field := by
      refine exists_congr fun name => and_congr_right fun hName => ?_
      obtain ⟨word, hWord⟩ := hFields name hName
      exact Column.namedBy_iff_of_prefixes hWord primary
    rw [Column.SelectedBy, Column.AskedBy, hNamed]
    exact or_iff_left fun h => hNoFallback h.2.2
  funext c
  rw [selects, selects, decide_eq_decide, hAsked k c, hAsked l c]

/-! ## Agreement -/

namespace MemoryStore

theorem map_pairIds_perm {m : MemoryStore} {s : FetchSettings} {r : Request} {primary : Kind}
    {l : List (Option Campaign × AdGroup)}
    (h : l.Perm ((m.keptPairs primary r).map (shownPair (s.selects primary r)))) :
    (l.map pairIds).Perm ((m.keptPairs primary r).map storedIds) := by
  refine (h.map pairIds).trans (List.Perm.of_eq ?_)
  rw [List.map_map]
  exact List.map_congr_left fun x _ => pairIds_shownPair s primary r x

/-- The kept pairs are told apart by the identities of their ad groups alone. -/
theorem Keyed.nodup_storedIds {m : MemoryStore} (h : m.Keyed) (primary : Kind) (r : Request) :
    ((m.keptPairs primary r).map storedIds).Nodup := by
  have hStored : ((m.keptPairs primary r).map (·.1.id)).Nodup :=
    h.nodup_pairs.sublist (List.filter_sublist.map _)
  refine List.Nodup.of_map Prod.snd ?_
  rwa [List.map_map]

/-- When every filter has a prefix and no limit binds, both directions find the same pairs, each
once. When the names of fields have prefixes too, and each kind is named, they show them alike. -/
theorem Keyed.directions_agree {m : MemoryStore} (h : m.Keyed) {s : FetchSettings} {r : Request}
    (hCap : s.maxLimit = none) (hAccepted : r.Accepted)
    (hFilters : ∀ f ∈ r.filters, ∃ k : Kind, k.Prefixes f.field)
    (hCampaigns : (m.campaigns.length : Int) ≤ r.limit)
    (hAdGroups : (m.adGroups.length : Int) ≤ r.limit) (db : ScriptedDatabase) :
    ∃ results groups,
      (fetchCampaigns s r).run.run (.ofStore fun q => .ok (m.fetchRows q)) db =
          (.ok results, db) ∧
        (fetchAdGroups s r).run.run (.ofStore fun q => .ok (m.fetchRows q)) db =
          (.ok groups, db) ∧
        ((results.flatMap CampaignResult.pairs).map pairIds).Nodup ∧
        ((groups.map AdGroup.pair).map pairIds).Nodup ∧
        (∀ ids, ids ∈ (results.flatMap CampaignResult.pairs).map pairIds ↔
          ids ∈ (groups.map AdGroup.pair).map pairIds) ∧
        ((∀ name ∈ r.fields, ∃ k : Kind, k.Prefixes name) →
          (∀ k : Kind, ∃ name ∈ r.fields, k.Prefixes name) →
          (results.flatMap CampaignResult.pairs).Perm (groups.map AdGroup.pair)) := by
  obtain ⟨results, hResults, hPairs⟩ := h.pairs_fetchCampaigns hCap hAccepted hCampaigns db
  obtain ⟨groups, hGroups, hPairs'⟩ := h.pairs_fetchAdGroups hCap hAccepted hAdGroups db
  have hKept : m.keptPairs .adGroup r = m.keptPairs .campaign r := by
    rw [keptPairs, keptPairs, Request.keeps_eq hFilters .adGroup .campaign]
  have hIds := map_pairIds_perm hPairs
  have hIds' := map_pairIds_perm hPairs'
  refine ⟨results, groups, hResults, hGroups, hIds.nodup_iff.mpr (h.nodup_storedIds _ _),
    hIds'.nodup_iff.mpr (h.nodup_storedIds _ _), fun ids => ?_, ?_⟩
  · rw [hIds.mem_iff, hIds'.mem_iff, hKept]
  · intro hFields hBoth
    rw [hKept, FetchSettings.selects_eq hFields hBoth .adGroup .campaign] at hPairs'
    exact hPairs.trans hPairs'.symm

/-- Campaign 1 and its ad group 7 are the one pair of both answers, although the settings fetch all
related fields and keep rows without a related entity. -/
theorem Keyed.directions_agree_sample :
    sample.Keyed ∧
      sample.keptPairs .campaign ⟨["campaign.name", "adGroup.status"],
          [⟨"adGroup.status", .equals, ["active", "deleted"]⟩], 3⟩ =
        [(.sample 7 1 "Search" .active, .sample 1 "Brand" "core" .active)] ∧
      ∃ results groups,
        (fetchCampaigns ⟨none, false, ⟨true, true⟩, ⟨true, true⟩⟩
            ⟨["campaign.name", "adGroup.status"],
              [⟨"adGroup.status", .equals, ["active", "deleted"]⟩], 3⟩).run.run
          (.ofStore fun q => .ok (sample.fetchRows q)) (.start .down) =
            (.ok results, .start .down) ∧
        (fetchAdGroups ⟨none, false, ⟨true, true⟩, ⟨true, true⟩⟩
            ⟨["campaign.name", "adGroup.status"],
              [⟨"adGroup.status", .equals, ["active", "deleted"]⟩], 3⟩).run.run
          (.ofStore fun q => .ok (sample.fetchRows q)) (.start .down) =
            (.ok groups, .start .down) ∧
        (results.flatMap CampaignResult.pairs).Perm (groups.map AdGroup.pair) := by
  obtain ⟨results, groups, hResults, hGroups, -, -, -, hShown⟩ :=
    directions_agree (s := ⟨none, false, ⟨true, true⟩, ⟨true, true⟩⟩)
      (r := ⟨["campaign.name", "adGroup.status"],
        [⟨"adGroup.status", .equals, ["active", "deleted"]⟩], 3⟩)
      keyed_sample rfl (by decide) (by
        intro f hf
        rw [List.mem_singleton.mp hf]
        exact ⟨.adGroup, "status", rfl⟩) (by decide) (by decide) (.start .down)
  refine ⟨keyed_sample, by decide +kernel, results, groups, hResults, hGroups, hShown ?_ ?_⟩
  · intro name hName
    rcases List.mem_pair.mp hName with rfl | rfl
    · exact ⟨.campaign, "name", rfl⟩
    · exact ⟨.adGroup, "status", rfl⟩
  · intro k
    cases k with
    | campaign => exact ⟨_, List.mem_cons_self, "name", rfl⟩
    | adGroup => exact ⟨_, List.mem_cons_of_mem _ List.mem_cons_self, "status", rfl⟩

end MemoryStore

end CampaignFetch

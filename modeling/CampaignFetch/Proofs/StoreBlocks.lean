import CampaignFetch.Proofs.JoinOrder
import CampaignFetch.Proofs.StoreLoops
import Mathlib.Data.List.ProdSigma

/-!
# The rows of a store by entity

A store is keyed when the identities of each of its tables are present and differ. The rows that
such a store gives for a join come in blocks:

* with campaigns first, `MemoryStore.campaignBlock` is a campaign with each of its ad groups, or
  alone without any (`Keyed.fetchRows_campaign`);
* with ad groups first, `MemoryStore.pairs` are the ad groups whose campaign is there, and every
  block is one such pair (`Keyed.fetchRows_adGroup`).
-/

namespace CampaignFetch

/-! ## Entities and what they refer to -/

/-- Every entity has an identity of sixty-four bits, which no other of its table has. -/
structure MemoryStore.Keyed (m : MemoryStore) : Prop where
  campaignId : ∀ c ∈ m.campaigns, ∃ n ∈ c.id, Text.fitsInt64 n = true
  campaignDistinct : (m.campaigns.map (·.id)).Nodup
  adGroupId : ∀ a ∈ m.adGroups, ∃ n ∈ a.id, Text.fitsInt64 n = true
  adGroupDistinct : (m.adGroups.map (·.id)).Nodup

namespace MemoryStore

/-- The ad groups that refer to a campaign. -/
def adGroupsOf (m : MemoryStore) (c : Campaign) : List AdGroup :=
  m.adGroups.filter fun a => a.campaignId = c.id

/-- A campaign with each of its ad groups, or alone when it has none. -/
def campaignBlock (m : MemoryStore) (c : Campaign) : List Joined :=
  if m.adGroupsOf c = [] then [⟨some c, none⟩]
  else (m.adGroupsOf c).map fun a => ⟨some c, some a⟩

/-- The ad groups with the campaigns that they refer to. -/
def pairs (m : MemoryStore) : List (AdGroup × Campaign) :=
  (m.adGroups ×ˢ m.campaigns).filter fun (a, c) => c.id = a.campaignId

/-- The one row of an ad group with its campaign. -/
def pairBlock (x : AdGroup × Campaign) : List Joined := [⟨some x.2, some x.1⟩]

variable {m : MemoryStore}

theorem mem_adGroupsOf {c : Campaign} {a : AdGroup} :
    a ∈ m.adGroupsOf c ↔ a ∈ m.adGroups ∧ a.campaignId = c.id := by
  simp [adGroupsOf]

theorem mem_campaignBlock {c : Campaign} {j : Joined} (h : j ∈ m.campaignBlock c) :
    j.campaign = some c ∧ ∀ a ∈ j.adGroup, a ∈ m.adGroupsOf c := by
  unfold campaignBlock at h
  split at h
  · rw [List.mem_singleton.mp h]
    exact ⟨rfl, fun a ha => by cases ha⟩
  · obtain ⟨a, ha, rfl⟩ := List.mem_map.mp h
    refine ⟨rfl, fun b hb => ?_⟩
    cases hb
    exact ha

theorem mem_pairs {a : AdGroup} {c : Campaign} :
    (a, c) ∈ m.pairs ↔ (a ∈ m.adGroups ∧ c ∈ m.campaigns) ∧ c.id = a.campaignId := by
  simp [pairs, List.mem_filter]

/-- The rows that a store gives for a join are those of the pairs that it is made of. -/
theorem fetchRows_eq {q : JoinQuery} (pairs : List Joined) (hFits : ∀ j ∈ pairs, j.Fits)
    (hRows : m.joinedRows q = (pairs.map Joined.row).mergeSort (rowLe q.primary)) :
    m.fetchRows q = rowsInOrder q.primary (fun j => q.accepts j.row) q.projection pairs := by
  have hSort : (pairs.mergeSort (Joined.le q.primary)).map Joined.row =
      (pairs.map Joined.row).mergeSort (rowLe q.primary) :=
    List.map_mergeSort fun j hj k hk => (Joined.rowLe_row (hFits j hj) (hFits k hk) _).symm
  rw [fetchRows, hRows, ← hSort, List.filter_map, List.map_map]
  rfl

/-! ## Keyed stores -/

namespace Keyed

theorem campaign_inj (h : m.Keyed) {c d : Campaign} (hc : c ∈ m.campaigns) (hd : d ∈ m.campaigns)
    (hEq : c.id = d.id) : c = d :=
  List.inj_on_of_nodup_map h.campaignDistinct hc hd hEq

theorem adGroup_inj (h : m.Keyed) {a b : AdGroup} (ha : a ∈ m.adGroups) (hb : b ∈ m.adGroups)
    (hEq : a.id = b.id) : a = b :=
  List.inj_on_of_nodup_map h.adGroupDistinct ha hb hEq

theorem fits_campaign (h : m.Keyed) {c : Campaign} (hc : c ∈ m.campaigns) :
    ∀ n ∈ c.id, Text.fitsInt64 n = true := by
  obtain ⟨n, hn, hFits⟩ := h.campaignId c hc
  intro i hi
  rwa [Option.mem_unique hi hn]

theorem fits_adGroup (h : m.Keyed) {a : AdGroup} (ha : a ∈ m.adGroups) :
    ∀ n ∈ a.id, Text.fitsInt64 n = true := by
  obtain ⟨n, hn, hFits⟩ := h.adGroupId a ha
  intro i hi
  rwa [Option.mem_unique hi hn]

theorem fits_pair (h : m.Keyed) {a : AdGroup} {c : Campaign} (ha : a ∈ m.adGroups)
    (hc : c ∈ m.campaigns) (hRefers : a.campaignId = c.id) : Joined.Fits ⟨some c, some a⟩ := by
  refine ⟨fun d hd => ?_, fun b hb => ?_, fun b hb => ?_⟩
  · cases hd
    exact h.fits_campaign hc
  · cases hb
    exact h.fits_adGroup ha
  · cases hb
    rw [hRefers]
    exact h.fits_campaign hc

theorem distinct (h : m.Keyed) : (m.campaigns.filterMap (·.id)).Nodup := by
  have hDistinct := h.campaignDistinct.filterMap (f := id) fun i k n hi hk =>
    (Option.mem_def.mp hi).trans (Option.mem_def.mp hk).symm
  rwa [List.filterMap_map] at hDistinct

theorem refersTo_iff (h : m.Keyed) (a : AdGroup) {c : Campaign} (hc : c ∈ m.campaigns) :
    a.RefersTo c ↔ a.campaignId = c.id := by
  obtain ⟨n, hn, -⟩ := h.campaignId c hc
  refine and_iff_right_of_imp fun hSame => ?_
  rw [hSame, Option.mem_def.mp hn]
  exact Option.some_ne_none n

/-! ### Campaigns first -/

theorem campaignBlocks (h : m.Keyed) :
    Blocks .campaign (·.id) m.campaignBlock m.campaigns where
  distinct := h.campaignDistinct
  identified c hc := by
    obtain ⟨n, hn, -⟩ := h.campaignId c hc
    exact Option.isSome_of_mem hn
  primary_id c _ j hj := by
    simp [Joined.id?, (mem_campaignBlock hj).1]
  fits c hc j hj := by
    obtain ⟨hCampaign, hAdGroup⟩ := mem_campaignBlock hj
    obtain ⟨_, _ | a⟩ := j <;> subst hCampaign
    · exact ⟨fun d hd => Option.mem_some.mp hd ▸ h.fits_campaign hc, by simp, by simp⟩
    · obtain ⟨hMem, hRefers⟩ := mem_adGroupsOf.mp (hAdGroup a rfl)
      exact h.fits_pair hMem hc hRefers
  related_inj c _ j hj k hk hEq := by
    obtain ⟨hjCampaign, hjAdGroup⟩ := mem_campaignBlock hj
    obtain ⟨hkCampaign, hkAdGroup⟩ := mem_campaignBlock hk
    have hId : ∀ a ∈ m.adGroupsOf c, ∃ n, a.id = some n := fun a ha => by
      obtain ⟨n, hn, -⟩ := h.adGroupId a (mem_adGroupsOf.mp ha).1
      exact ⟨n, hn⟩
    -- every ad group has an identity, so only the row without one has a null there
    obtain ⟨_, _ | a⟩ := j <;> obtain ⟨_, _ | b⟩ := k <;> subst hjCampaign <;> subst hkCampaign
    · rfl
    · obtain ⟨n, hn⟩ := hId b (hkAdGroup b rfl)
      simp [Joined.id?, Kind.other, hn] at hEq
    · obtain ⟨n, hn⟩ := hId a (hjAdGroup a rfl)
      simp [Joined.id?, Kind.other, hn] at hEq
    · rw [h.adGroup_inj (mem_adGroupsOf.mp (hjAdGroup a rfl)).1
        (mem_adGroupsOf.mp (hkAdGroup b rfl)).1 hEq]

theorem padded_withAdGroups (h : m.Keyed) {c : Campaign} (hc : c ∈ m.campaigns) :
    padded .left (m.withAdGroups c) ⟨some c, none⟩ = m.campaignBlock c := by
  have hOwn : (m.adGroups.filter fun a => a.RefersTo c) = m.adGroupsOf c :=
    List.filter_congr fun a _ => decide_eq_decide.mpr (h.refersTo_iff a hc)
  rw [withAdGroups, hOwn, campaignBlock, padded]
  by_cases hNil : m.adGroupsOf c = [] <;> simp [hNil]

theorem fetchRows_campaign (h : m.Keyed) {q : JoinQuery} (hPrimary : q.primary = .campaign)
    (hJoin : q.join = .left) :
    m.fetchRows q = rowsInOrder .campaign (fun j => q.accepts j.row) q.projection
      (m.campaigns.flatMap m.campaignBlock) := by
  have hRows : m.campaigns.flatMap (m.campaignRows .left) =
      (m.campaigns.flatMap m.campaignBlock).map Joined.row := by
    rw [List.map_flatMap]
    refine List.flatMap_congr fun c hc => ?_
    rw [campaignRows_eq, h.padded_withAdGroups hc]
  rw [fetchRows_eq (m.campaigns.flatMap m.campaignBlock), hPrimary]
  · intro j hj
    obtain ⟨c, hc, hBlock⟩ := List.mem_flatMap.mp hj
    exact h.campaignBlocks.fits c hc j hBlock
  · rw [joinedRows, hPrimary, hJoin, ← hRows]

/-! ### Ad groups first -/

theorem nodup_pairs (h : m.Keyed) : (m.pairs.map (·.1.id)).Nodup := by
  have hProduct := (h.adGroupDistinct.of_map.product h.campaignDistinct.of_map).filter
    fun x => decide (x.2.id = x.1.campaignId)
  refine List.Nodup.map_on ?_ hProduct
  rintro ⟨a, c⟩ hac ⟨b, d⟩ hbd hEq
  obtain ⟨⟨ha, hc⟩, hRefersA⟩ := mem_pairs.mp hac
  obtain ⟨⟨hb, hd⟩, hRefersB⟩ := mem_pairs.mp hbd
  obtain rfl := h.adGroup_inj ha hb hEq
  rw [h.campaign_inj hc hd (hRefersA.trans hRefersB.symm)]

theorem pairBlocks (h : m.Keyed) : Blocks .adGroup (·.1.id) pairBlock m.pairs where
  distinct := h.nodup_pairs
  identified x hx := by
    obtain ⟨n, hn, -⟩ := h.adGroupId x.1 (mem_pairs.mp hx).1.1
    exact Option.isSome_of_mem hn
  primary_id x _ j hj := by
    rw [List.mem_singleton.mp hj]
    rfl
  fits x hx j hj := by
    obtain ⟨⟨ha, hc⟩, hRefers⟩ := mem_pairs.mp hx
    rw [List.mem_singleton.mp hj]
    exact h.fits_pair ha hc hRefers.symm
  related_inj x _ j hj k hk _ := (List.mem_singleton.mp hj).trans (List.mem_singleton.mp hk).symm

theorem withCampaigns_eq (h : m.Keyed) (a : AdGroup) :
    m.withCampaigns a = (m.campaigns.filter fun c => c.id = a.campaignId).map fun c =>
      ⟨some c, some a⟩ := by
  refine congrArg (List.map _) (List.filter_congr fun c hc => decide_eq_decide.mpr ?_)
  rw [h.refersTo_iff a hc, eq_comm]

theorem fetchRows_adGroup (h : m.Keyed) {q : JoinQuery} (hPrimary : q.primary = .adGroup)
    (hJoin : q.join = .inner) :
    m.fetchRows q = rowsInOrder .adGroup (fun j => q.accepts j.row) q.projection
      (m.pairs.flatMap pairBlock) := by
  have hRows : m.adGroups.flatMap (m.adGroupRows .inner) =
      (m.pairs.flatMap pairBlock).map Joined.row := by
    have hPairs : m.pairs.flatMap pairBlock = m.pairs.map fun x => ⟨some x.2, some x.1⟩ :=
      (List.map_eq_flatMap).symm
    have hProduct : m.adGroups ×ˢ m.campaigns =
      m.adGroups.flatMap fun a => m.campaigns.map (Prod.mk a) := rfl
    rw [hPairs, pairs, List.map_map, hProduct, List.filter_flatMap, List.map_flatMap]
    refine List.flatMap_congr fun a _ => ?_
    rw [adGroupRows_eq h.distinct, padded_inner, h.withCampaigns_eq, List.filter_map,
      List.map_map, List.map_map]
    rfl
  rw [fetchRows_eq (m.pairs.flatMap pairBlock), hPrimary]
  · intro j hj
    obtain ⟨x, hx, hBlock⟩ := List.mem_flatMap.mp hj
    exact h.pairBlocks.fits x hx j hBlock
  · rw [joinedRows, hPrimary, hJoin, ← hRows]

end Keyed

end MemoryStore

end CampaignFetch

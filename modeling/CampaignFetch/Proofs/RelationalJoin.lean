import CampaignFetch.Proofs.StoreBlocks
import Mathlib.Data.List.Perm.Basic

/-!
# The store as a relational join

A store joins its tables by one of two loops: over the campaigns with their ad groups, or over the
ad groups with the first campaign that each refers to. Either loop gives the same join, for any
query and without identities that are keys: no two campaigns may share an identity, but identities
may be missing and ad groups may be repeated.

* `MemoryStore.joined` is the join as a relation: the linked pairs, and in a left join the primary
  entities without a partner.
* `MemoryStore.Joinable.campaigns_perm`, `MemoryStore.Joinable.adGroups_perm`: what the two loops
  give is a rearrangement of it.
* `MemoryStore.Joinable.fetchRows_join`: the answer to a query consists of the rows of the join that
  satisfy the condition, ordered by both identities and projected.
-/

namespace CampaignFetch

/-! ## Lists -/

section

variable {α β γ : Type}

theorem flatMap_flatMap_perm (l : List α) (m : List β) (f : α → β → List γ) :
    (l.flatMap fun a => m.flatMap (f a)).Perm (m.flatMap fun b => l.flatMap fun a => f a b) := by
  induction l with
  | nil => simp
  | cons a l ih =>
    simp only [List.flatMap_cons]
    exact (ih.append_left _).trans (List.flatMap_append_perm m _ _)

theorem map_filter_eq_flatMap (p : α → Bool) (f : α → β) (l : List α) :
    (l.filter p).map f = l.flatMap fun a => if p a then [f a] else [] := by
  induction l with
  | nil => rfl
  | cons a l ih =>
    rw [List.filter_cons, List.flatMap_cons, ← ih]
    cases p a <;> rfl

end

/-! ## The join as a relation -/

namespace MemoryStore

/-- The campaigns with their ad groups, a row for each pair of entries of the two tables. -/
def linked (m : MemoryStore) : List Joined :=
  ((m.campaigns ×ˢ m.adGroups).filter fun (c, a) => a.RefersTo c).map
    fun (c, a) => ⟨some c, some a⟩

/-- The entities of a kind without a partner in the other table. -/
def unlinked (m : MemoryStore) : Kind → List Joined
  | .campaign => (m.campaigns.filter fun c => ∀ a ∈ m.adGroups, ¬ a.RefersTo c).map
      fun c => ⟨some c, none⟩
  | .adGroup => (m.adGroups.filter fun a => ∀ c ∈ m.campaigns, ¬ a.RefersTo c).map
      fun a => ⟨none, some a⟩

/-- The join of the tables: the linked pairs and, in a left join, the primary entities without a
partner. -/
def joined (m : MemoryStore) (primary : Kind) (join : Join) : List Joined :=
  m.linked ++ if join = .left then m.unlinked primary else []

/-- The identities and the references to them have sixty-four bits, and no two campaigns have the
same identity. -/
structure Joinable (m : MemoryStore) : Prop where
  campaignId : ∀ c ∈ m.campaigns, ∀ n ∈ c.id, Text.fitsInt64 n = true
  adGroupId : ∀ a ∈ m.adGroups, ∀ n ∈ a.id, Text.fitsInt64 n = true
  referredId : ∀ a ∈ m.adGroups, ∀ n ∈ a.campaignId, Text.fitsInt64 n = true
  distinct : (m.campaigns.filterMap (·.id)).Nodup

variable {m : MemoryStore} {join : Join}

/-! ## Loops -/

/-- A loop over entities gives the rows with partners and those without. -/
theorem flatMap_padded_perm {α : Type} (join : Join) (l : List α) (partners : α → List Joined)
    (alone : α → Joined) :
    (l.flatMap fun x => padded join (partners x) (alone x)).Perm
      (l.flatMap partners ++
        if join = .left then (l.filter fun x => (partners x).isEmpty).map alone else []) := by
  refine (List.flatMap_append_perm l partners _).symm.trans (List.Perm.append_left _ ?_)
  refine List.Perm.of_eq ?_
  cases join with
  | left => simp [map_filter_eq_flatMap]
  | inner => simp

theorem flatMap_withAdGroups (m : MemoryStore) : m.campaigns.flatMap m.withAdGroups = m.linked := by
  have hProduct : m.campaigns ×ˢ m.adGroups =
    m.campaigns.flatMap fun c => m.adGroups.map (Prod.mk c) := rfl
  rw [linked, hProduct, List.filter_flatMap, List.map_flatMap]
  refine List.flatMap_congr fun c _ => ?_
  rw [withAdGroups, List.filter_map, List.map_map]
  rfl

theorem flatMap_withCampaigns_perm (m : MemoryStore) :
    (m.adGroups.flatMap m.withCampaigns).Perm m.linked := by
  -- both loops are double loops over the pairs of entries, with one body in either order
  have hCampaigns : m.withCampaigns = fun a => m.campaigns.flatMap fun c =>
      if decide (a.RefersTo c) then [⟨some c, some a⟩] else [] :=
    funext fun a => map_filter_eq_flatMap _ _ _
  have hAdGroups : m.withAdGroups = fun c => m.adGroups.flatMap fun a =>
      if decide (a.RefersTo c) then [⟨some c, some a⟩] else [] :=
    funext fun c => map_filter_eq_flatMap _ _ _
  rw [← m.flatMap_withAdGroups, hCampaigns, hAdGroups]
  exact flatMap_flatMap_perm _ _ _

theorem campaigns_perm (m : MemoryStore) (join : Join) :
    (m.campaigns.flatMap fun c => padded join (m.withAdGroups c) ⟨some c, none⟩).Perm
      (m.joined .campaign join) := by
  have hUnlinked : ((m.campaigns.filter fun c => (m.withAdGroups c).isEmpty).map
      fun c => (⟨some c, none⟩ : Joined)) = m.unlinked .campaign := by
    refine congrArg (List.map _) (List.filter_congr fun c _ => ?_)
    rw [Bool.eq_iff_iff]
    simp [withAdGroups, List.isEmpty_iff]
  refine (flatMap_padded_perm join _ _ _).trans (List.Perm.of_eq ?_)
  rw [m.flatMap_withAdGroups, hUnlinked, joined]

theorem adGroups_perm (m : MemoryStore) (join : Join) :
    (m.adGroups.flatMap fun a => padded join (m.withCampaigns a) ⟨none, some a⟩).Perm
      (m.joined .adGroup join) := by
  have hUnlinked : ((m.adGroups.filter fun a => (m.withCampaigns a).isEmpty).map
      fun a => (⟨none, some a⟩ : Joined)) = m.unlinked .adGroup := by
    refine congrArg (List.map _) (List.filter_congr fun a _ => ?_)
    rw [Bool.eq_iff_iff]
    simp [withCampaigns, List.isEmpty_iff]
  refine (flatMap_padded_perm join _ _ _).trans ?_
  rw [hUnlinked, joined]
  exact m.flatMap_withCampaigns_perm.append_right _

/-! ## Answers -/

namespace Joinable

theorem fits (h : m.Joinable) {j : Joined} (hCampaign : ∀ c ∈ j.campaign, c ∈ m.campaigns)
    (hAdGroup : ∀ a ∈ j.adGroup, a ∈ m.adGroups) : j.Fits :=
  ⟨fun c hc => h.campaignId c (hCampaign c hc), fun a ha => h.adGroupId a (hAdGroup a ha),
    fun a ha => h.referredId a (hAdGroup a ha)⟩

theorem fits_of_mem_joined (h : m.Joinable) {primary : Kind} {j : Joined}
    (hj : j ∈ m.joined primary join) : j.Fits := by
  rcases List.mem_append.mp hj with hLinked | hUnlinked
  · obtain ⟨⟨c, a⟩, hPair, rfl⟩ := List.mem_map.mp hLinked
    obtain ⟨hc, ha⟩ := List.mem_product.mp (List.mem_filter.mp hPair).1
    exact h.fits (fun d hd => Option.mem_some.mp hd ▸ hc) fun b hb => Option.mem_some.mp hb ▸ ha
  · split at hUnlinked
    · cases primary with
      | campaign =>
        obtain ⟨c, hc, rfl⟩ := List.mem_map.mp hUnlinked
        have hMem := (List.mem_filter.mp hc).1
        exact h.fits (fun d hd => Option.mem_some.mp hd ▸ hMem) (by simp)
      | adGroup =>
        obtain ⟨a, ha, rfl⟩ := List.mem_map.mp hUnlinked
        have hMem := (List.mem_filter.mp ha).1
        exact h.fits (by simp) fun b hb => Option.mem_some.mp hb ▸ hMem
    · cases hUnlinked

/-- The rows that a store joins are those of the join, in the order of both identities. -/
theorem exists_joinedRows (h : m.Joinable) (q : JoinQuery) :
    ∃ pairs : List Joined, pairs.Perm (m.joined q.primary q.join) ∧
      m.joinedRows q = (pairs.map Joined.row).mergeSort (rowLe q.primary) := by
  obtain ⟨primary, join, projection, condition⟩ := q
  cases primary with
  | campaign =>
    refine ⟨_, m.campaigns_perm join, ?_⟩
    rw [joinedRows, List.map_flatMap]
    exact congrArg (List.mergeSort · _) (List.flatMap_congr fun c _ => m.campaignRows_eq join c)
  | adGroup =>
    refine ⟨_, m.adGroups_perm join, ?_⟩
    rw [joinedRows, List.map_flatMap]
    exact congrArg (List.mergeSort · _)
      (List.flatMap_congr fun a _ => adGroupRows_eq h.distinct join a)

end Joinable

end MemoryStore

/-- The side that a row lacks is null in all columns of its table. -/
theorem Joined.get_row_of_none (j : Joined) (x : Column) :
    (j.campaign = none → x.kind = .campaign → j.row.get x = .null) ∧
      (j.adGroup = none → x.kind = .adGroup → j.row.get x = .null) := by
  obtain ⟨campaign, adGroup⟩ := j
  constructor
  · rintro rfl hKind
    cases adGroup <;> cases x <;> first | rfl | cases hKind
  · rintro rfl hKind
    cases campaign <;> cases x <;> first | rfl | cases hKind

/-- The answer of a store to a query, whatever its primary kind, its kind of join, its projection
and its condition, is the relational join of the tables: the rows of the join that satisfy the
condition before they are projected, ordered by the primary identity and then by the related one
with nulls last. It has values for the projected columns only. -/
theorem MemoryStore.Joinable.fetchRows_join {m : MemoryStore} (h : m.Joinable) (q : JoinQuery) :
    ∃ rows : List Joined,
      rows.Perm ((m.joined q.primary q.join).filter fun j => q.accepts j.row) ∧
        rows.Pairwise (fun j k => Joined.le q.primary j k = true) ∧
        m.fetchRows q = rows.map (fun j => j.row.project q.projection) ∧
        (∀ j ∈ rows, ∀ x : Column,
          (j.campaign = none → x.kind = .campaign → j.row.get x = .null) ∧
            (j.adGroup = none → x.kind = .adGroup → j.row.get x = .null)) ∧
        ∀ row ∈ m.fetchRows q, ∀ x : Column, (row.value? x).isSome = true ↔ x ∈ q.projection := by
  obtain ⟨pairs, hPairs, hRows⟩ := h.exists_joinedRows q
  have hFits : ∀ j ∈ pairs, j.Fits := fun j hj => h.fits_of_mem_joined (hPairs.mem_iff.mp hj)
  have hFetch := fetchRows_eq pairs hFits hRows
  have hSorted := List.pairwise_mergeSort Joined.le_trans (Joined.le_total q.primary) pairs
  refine ⟨(pairs.mergeSort (Joined.le q.primary)).filter fun j => q.accepts j.row, ?_,
    hSorted.filter _, hFetch, fun j _ => j.get_row_of_none, ?_⟩
  · exact ((List.mergeSort_perm _ _).trans hPairs).filter _
  · intro row hRow x
    rw [hFetch, rowsInOrder] at hRow
    obtain ⟨j, -, rfl⟩ := List.mem_map.mp hRow
    by_cases hMem : x ∈ q.projection <;> simp [Row.value?_project, hMem]

/-- With ad groups first in a left join, an ad group that stands twice in its table stands twice in
the answer, and one that refers to nothing has a row of its own, although there is a campaign
without an identity. -/
theorem MemoryStore.Joinable.fetchRows_join_repeated :
    let search := AdGroup.sample 7 1 "Search" .active
    let loose := { AdGroup.sample 6 1 "Loose" .paused with campaignId := none }
    let brand := Campaign.sample 1 "Brand" "core" .active
    let store : MemoryStore :=
      ⟨[{ Campaign.blank with name := some "Draft" }, brand], [search, loose, search]⟩
    store.Joinable ∧ ∃ rows : List Joined,
      rows.Perm [⟨some brand, some search⟩, ⟨some brand, some search⟩, ⟨none, some loose⟩] ∧
        rows.Pairwise (fun j k => Joined.le .adGroup j k = true) ∧
        store.fetchRows ⟨.adGroup, .left, [.adGroupId],
            some (.isIn .adGroupStatus ["ACTIVE", "PAUSED"])⟩ =
          rows.map fun j => j.row.project [.adGroupId] := by
  intro search loose brand store
  have hStore : store.Joinable := ⟨by decide, by decide, by decide, by decide⟩
  refine ⟨hStore, ?_⟩
  obtain ⟨rows, hPerm, hSorted, hRows, -⟩ := hStore.fetchRows_join
    ⟨.adGroup, .left, [.adGroupId], some (.isIn .adGroupStatus ["ACTIVE", "PAUSED"])⟩
  refine ⟨rows, hPerm.trans (List.Perm.of_eq ?_), hSorted, hRows⟩
  decide +kernel

end CampaignFetch

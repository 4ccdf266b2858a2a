import CampaignFetch.Proofs.JoinedRows
import Mathlib.Data.List.Basic

/-!
# The loops of a store

With campaigns first, a store goes through the campaigns and looks for the ad groups of each. With ad
groups first it goes through these and looks for the campaign of each, which it takes to be the only
one. Either loop gives an entity with its partners, and in a left join an entity without any alone.

* `AdGroup.RefersTo` links an ad group to a campaign; a missing identity links nothing.
* `MemoryStore.padded` are the rows of one entity.
* `MemoryStore.campaignRows_eq`, `MemoryStore.adGroupRows_eq`: what a loop gives for an entity, the
  latter when no two campaigns have the same identity.
-/

namespace CampaignFetch

/-- When keys differ, the first entry with a key is the only one. -/
theorem filter_eq_toList_find? {α : Type} {key : α → Option Int} {l : List α}
    (h : (l.filterMap key).Nodup) (k : Int) :
    l.filter (fun x => key x = some k) = (l.find? fun x => key x = some k).toList := by
  induction l with
  | nil => rfl
  | cons x l ih =>
    have hTail : (l.filterMap key).Nodup := h.sublist ((List.sublist_cons_self x l).filterMap key)
    by_cases hKey : key x = some k
    · have hNone : l.filter (fun y => key y = some k) = [] := by
        refine List.filter_eq_nil_iff.mpr fun y hy hSame => ?_
        rw [List.filterMap_cons_some hKey] at h
        exact (List.nodup_cons.mp h).1 (List.mem_filterMap.mpr ⟨y, hy, of_decide_eq_true hSame⟩)
      simp [hKey, hNone]
    · simp [hKey, ih hTail]

namespace AdGroup

/-- An ad group refers to the campaign that has the identity it gives. -/
def RefersTo (a : AdGroup) (c : Campaign) : Prop :=
  a.campaignId ≠ none ∧ a.campaignId = c.id

instance (a : AdGroup) (c : Campaign) : Decidable (a.RefersTo c) := by
  unfold RefersTo
  infer_instance

theorem refersTo_iff {a : AdGroup} {c : Campaign} :
    a.RefersTo c ↔ ∃ n, a.campaignId = some n ∧ c.id = some n := by
  unfold RefersTo
  cases a.campaignId with
  | none => simp
  | some n => simp [eq_comm]

theorem belongsTo_eq {a : AdGroup} {c : Campaign} : a.belongsTo c = decide (a.RefersTo c) := by
  rw [Bool.eq_iff_iff, decide_eq_true_eq, refersTo_iff, belongsTo]
  cases a.campaignId with
  | none => simp
  | some n => simp

end AdGroup

namespace MemoryStore

/-- The rows of one entity: those with its partners, and without any its own in a left join. -/
def padded (join : Join) (partners : List Joined) (alone : Joined) : List Joined :=
  partners ++ if partners.isEmpty && join = .left then [alone] else []

@[simp]
theorem padded_inner (partners : List Joined) (alone : Joined) :
    padded .inner partners alone = partners := by
  simp [padded]

/-- The ad groups of a campaign, each with it. -/
def withAdGroups (m : MemoryStore) (c : Campaign) : List Joined :=
  (m.adGroups.filter fun a => a.RefersTo c).map fun a => ⟨some c, some a⟩

/-- The campaigns of an ad group, each with it. -/
def withCampaigns (m : MemoryStore) (a : AdGroup) : List Joined :=
  (m.campaigns.filter fun c => a.RefersTo c).map fun c => ⟨some c, some a⟩

theorem campaignRows_eq (m : MemoryStore) (join : Join) (c : Campaign) :
    m.campaignRows join c = (padded join (m.withAdGroups c) ⟨some c, none⟩).map Joined.row := by
  have hChildren : (m.adGroups.filter fun a => a.belongsTo c) =
      m.adGroups.filter fun a => a.RefersTo c :=
    List.filter_congr fun _ _ => AdGroup.belongsTo_eq
  rw [campaignRows, hChildren, padded, withAdGroups]
  cases m.adGroups.filter fun a => a.RefersTo c with
  | nil => cases join <;> rfl
  | cons a children => simp [Joined.row, Joined.withAdGroup_withCampaign]

variable {m : MemoryStore}

/-- The campaigns that an ad group refers to are the first one found, or none. -/
theorem filter_refersTo (h : (m.campaigns.filterMap (·.id)).Nodup) (a : AdGroup) :
    (m.campaigns.filter fun c => a.RefersTo c) =
      (m.campaigns.find? fun c => a.belongsTo c).toList := by
  simp only [AdGroup.belongsTo_eq]
  cases hReferred : a.campaignId with
  | none =>
    have hNever : ∀ c, ¬ a.RefersTo c := fun c hRefers => hRefers.1 hReferred
    simp [hNever]
  | some n =>
    have hKey : ∀ c : Campaign, a.RefersTo c ↔ c.id = some n := fun c => by
      simp [AdGroup.refersTo_iff, hReferred]
    simp only [hKey]
    exact filter_eq_toList_find? h n

theorem adGroupRows_eq (h : (m.campaigns.filterMap (·.id)).Nodup) (join : Join) (a : AdGroup) :
    m.adGroupRows join a = (padded join (m.withCampaigns a) ⟨none, some a⟩).map Joined.row := by
  rw [adGroupRows, padded, withCampaigns, filter_refersTo h]
  cases m.campaigns.find? fun c => a.belongsTo c with
  | none => cases join <;> rfl
  | some c => rfl

end MemoryStore

end CampaignFetch

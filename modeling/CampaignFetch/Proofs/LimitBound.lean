import CampaignFetch.Database.Script
import CampaignFetch.Proofs.EnvironmentOverrides
import CampaignFetch.Proofs.FetchPlans
import CampaignFetch.Proofs.Grouping
import Mathlib.Algebra.Group.Nat.Defs

/-!
# When limits bind

`GivesAtMost` bounds the number of results of a fetch, whatever answers its join. Both the limit of
a request and the cap of the settings are such bounds as long as the cap is not negative. A negative
cap takes every bound away: `countedRows` are rows that then make as many groups as one likes.

* `givesAtMost_of_capNonneg`: without a negative cap both bounds hold.
* `exists_length_eq`: with a negative cap, every accepted request can be given any number of groups.
* `ofVariables_maxLimit`: the environment can set any cap of sixty-four bits, a negative one too.
* `limits_bind_iff`: either bound holds on every store exactly when no negative cap is set.
-/

namespace CampaignFetch

/-- The fetch gives at most so many results, whatever answers it. -/
def GivesAtMost {α : Type} (bound : Int) (fetch : ExceptT FetchFault Program (List α)) : Prop :=
  ∀ {σ : Type} (b : Backend σ) (state : σ) (results : List α),
    (fetch.run.run b state).1 = .ok results → (results.length : Int) ≤ bound

/-! ## Rows without bound -/

/-- So many rows, with the numbers from zero on as identities of a kind. -/
def countedRows (k : Kind) (count : Nat) : List Row :=
  (List.range count).map fun i : Nat => Row.empty.set k.identity (.int i)

section

variable {P R : Type} [Entity P] [Entity R]

theorem mem_rowsOf_countedRows {count : Nat} (hCount : count ≤ 2 ^ 63) (id : Int) :
    rowsOf P id (countedRows (Entity.kind P) count) ≠ [] ↔ ∃ i < count, (i : Int) = id := by
  have hId : ∀ i < count, primaryId? P (Row.empty.set (Entity.kind P).identity (.int i)) =
      some (i : Int) := by
    intro i hi
    have hFits : Text.fitsInt64 i = true := by
      have hMin : Text.int64Min ≤ i := Int.le_trans (by decide) (Int.natCast_nonneg i)
      have hMax : (i : Int) ≤ Text.int64Max := by
        simp only [Text.int64Max]
        omega
      simp [Text.fitsInt64, hMin, hMax]
    simp [primaryId?, Json.int, Json.int64?, hFits]
  simp only [rowsOf, ne_eq, List.filter_eq_nil_iff, countedRows, List.mem_map, List.mem_range]
  constructor
  · intro h
    obtain ⟨row, ⟨i, hi, rfl⟩, hRow⟩ : ∃ row, (∃ i < count, Row.empty.set (Entity.kind P).identity
        (.int i) = row) ∧ primaryId? P row = some id := by simpa using h
    rw [hId i hi] at hRow
    exact ⟨i, hi, Option.some.inj hRow⟩
  · rintro ⟨i, hi, rfl⟩ h
    exact h _ ⟨i, hi, rfl⟩ (by simpa using hId i hi)

/-- Without a limit, rows with as many identities make as many groups. -/
theorem length_assemble_countedRows (own related : List Column) (keep : Bool) {count : Nat}
    (hCount : count ≤ 2 ^ 63) :
    (assemble own related none keep (countedRows (Entity.kind P) count) :
      List (Group P R)).length = count := by
  have hAscending : ((List.range count).map fun i : Nat => (i : Int)).Pairwise (· < ·) :=
    List.pairwise_map.mpr (List.pairwise_lt_range.imp fun h => Int.ofNat_lt.mpr h)
  have hGroups := (represents_foldl (P := P) (R := R) own related keep
    (countedRows (Entity.kind P) count)).eq_map hAscending fun id => by
      simp [mem_rowsOf_countedRows hCount]
  simp [assemble, hGroups]

theorem length_assemble_le (own related : List Column) (n : Nat) (keep : Bool) (rows : List Row) :
    (assemble own related (some n) keep rows : List (Group P R)).length ≤ n :=
  List.length_take_le _ _

end

/-! ## Caps from the environment -/

theorem Variables.cap?_ofInt {cap : Int} (h : Text.fitsInt64 cap = true) :
    cap? (Text.ofInt cap) = some (some cap) := by
  have hTrims : Text.Trims (Text.ofInt cap) (Text.ofInt cap) :=
    Text.trim_eq_iff.mp (Text.trim_ofInt cap)
  have hText : Text.IntText (Text.ofInt cap) cap :=
    Text.int?_eq_some_iff.mp (Text.int?_ofInt cap)
  apply (Setting.cap?_eq_some_iff _ _).mpr
  exact ⟨Text.ofInt cap, hTrims, .inr ⟨cap, hText, h, rfl⟩⟩

/-- Every integer of sixty-four bits, a negative one too, is the cap in some environment. -/
theorem ofVariables_maxLimit {cap : Int} (h : Text.fitsInt64 cap = true) {env : Variables}
    (hEnv : env "FETCH_MAX_LIMIT" = some (Text.ofInt cap)) :
    (AppSettings.ofVariables env).fetch.maxLimit = some cap := by
  simp [AppSettings.ofVariables, AppSettings.under, FetchSettings.under, Variables.override, hEnv,
    Variables.cap?_ofInt h]

/-- The environment with a cap and nothing else. -/
def Variables.ofCap (cap : Int) : Variables :=
  fun name => if name = "FETCH_MAX_LIMIT" then some (Text.ofInt cap) else none

/-! ## Bounds -/

section

variable {P R : Type} [Entity P] [Entity R] {s : FetchSettings} {r : Request}

theorem givesAtMost_capLimit (hCap : s.CapNonneg) :
    GivesAtMost (s.capLimit r.limit) (fetchGroups P R s r) := by
  intro σ b state groups h
  have hAccepted := accepted_of_run_eq_ok h
  have hNonneg := FetchSettings.capLimit_nonneg hCap hAccepted.1
  rw [fetchGroups_run hAccepted, FetchSettings.groupLimit_of_capNonneg hCap hAccepted.1] at h
  split at h
  · cases h
  · rename_i rows _
    have hLength := length_assemble_le (P := P) (R := R) (s.ownColumns (Entity.kind P) r)
      (s.relatedColumns (Entity.kind P) r) (s.capLimit r.limit).toNat
      (s.direction (Entity.kind P)).keepRowsWithoutRelated rows
    rw [Except.ok.inj h] at hLength
    omega

/-- With a negative cap, every accepted request can be given any number of groups. -/
theorem exists_length_eq (hCap : ¬ s.CapNonneg) (hAccepted : r.Accepted) {count : Nat}
    (hCount : count ≤ 2 ^ 63) :
    ∃ (store : JoinQuery → JoinReply) (groups : List (Group P R)),
      ((fetchGroups P R s r).run.run (.ofStore store) (.start .down)).1 = .ok groups ∧
        groups.length = count := by
  refine ⟨fun _ => .ok (countedRows (Entity.kind P) count), _, ?_,
    length_assemble_countedRows (s.ownColumns (Entity.kind P) r)
      (s.relatedColumns (Entity.kind P) r) (s.direction (Entity.kind P)).keepRowsWithoutRelated
      hCount⟩
  rw [fetchGroups_run hAccepted, FetchSettings.groupLimit_of_not_capNonneg hCap]
  rfl

/-- The limit of an accepted request bounds what it is given exactly when no negative cap is set. -/
theorem givesAtMost_limit_iff (hAccepted : r.Accepted) (hFits : r.limit ≤ Text.int64Max) :
    GivesAtMost r.limit (fetchGroups P R s r) ↔ s.CapNonneg := by
  constructor
  · intro h
    refine Decidable.byContradiction fun hCap => ?_
    -- one group more than the limit allows
    have hCount : r.limit.toNat + 1 ≤ 2 ^ 63 := by
      have := hAccepted.1
      simp only [Text.int64Max] at hFits
      omega
    obtain ⟨store, groups, hRun, hLength⟩ :=
      exists_length_eq (P := P) (R := R) hCap hAccepted hCount
    have := h _ _ _ hRun
    omega
  · intro hCap σ b state groups hRun
    exact Int.le_trans (givesAtMost_capLimit hCap b state groups hRun) s.capLimit_le

/-- The cap bounds what an accepted request is given exactly when it is not negative. -/
theorem givesAtMost_cap_iff (hAccepted : r.Accepted) :
    (∀ cap ∈ s.maxLimit, GivesAtMost (max cap 0) (fetchGroups P R s r)) ↔ s.CapNonneg := by
  constructor
  · intro h cap hMax
    refine Decidable.byContradiction fun hNeg => ?_
    obtain ⟨store, groups, hRun, hLength⟩ := exists_length_eq (P := P) (R := R) (s := s)
      (fun hCap => hNeg (hCap cap hMax)) hAccepted (by decide : 1 ≤ 2 ^ 63)
    have := h cap hMax _ _ _ hRun
    omega
  · intro hCap cap hMax σ b state groups hRun
    have := givesAtMost_capLimit hCap b state groups hRun
    have := FetchSettings.capLimit_le_cap hMax r.limit
    omega

theorem givesAtMost_map {α β : Type} {bound : Int} {fetch : ExceptT FetchFault Program (List α)}
    {fetch' : ExceptT FetchFault Program (List β)} {f : α → β}
    (h : ∀ {σ : Type} (b : Backend σ) (state : σ),
      (fetch'.run.run b state).1 = (fetch.run.run b state).1.map (List.map f)) :
    GivesAtMost bound fetch' ↔ GivesAtMost bound fetch := by
  constructor
  · intro hBound σ b state results hRun
    have := hBound b state (results.map f) (by rw [h, hRun]; rfl)
    rwa [List.length_map] at this
  · intro hBound σ b state results hRun
    rw [h] at hRun
    cases hInner : (fetch.run.run b state).1 with
    | error fault =>
      rw [hInner] at hRun
      cases hRun
    | ok inner =>
      rw [hInner] at hRun
      cases hRun
      rw [List.length_map]
      exact hBound b state inner hInner

/-- In either direction, the limit of an accepted request and the cap bind on every store exactly
when the cap is not negative. -/
theorem limits_bind_iff (hAccepted : r.Accepted) (hFits : r.limit ≤ Text.int64Max) :
    (GivesAtMost r.limit (fetchCampaigns s r) ↔ s.CapNonneg) ∧
      (GivesAtMost r.limit (fetchAdGroups s r) ↔ s.CapNonneg) ∧
      ((∀ cap ∈ s.maxLimit, GivesAtMost (max cap 0) (fetchCampaigns s r)) ↔ s.CapNonneg) ∧
      ((∀ cap ∈ s.maxLimit, GivesAtMost (max cap 0) (fetchAdGroups s r)) ↔ s.CapNonneg) := by
  have hCampaigns : ∀ bound, GivesAtMost bound (fetchCampaigns s r) ↔
      GivesAtMost bound (fetchGroups Campaign AdGroup s r) :=
    fun _ => givesAtMost_map fun _ _ => congrArg Prod.fst fetchCampaigns_run
  have hAdGroups : ∀ bound, GivesAtMost bound (fetchAdGroups s r) ↔
      GivesAtMost bound (fetchGroups AdGroup Campaign s r) :=
    fun _ => givesAtMost_map fun _ _ => congrArg Prod.fst fetchAdGroups_run
  simp only [hCampaigns, hAdGroups]
  exact ⟨givesAtMost_limit_iff hAccepted hFits, givesAtMost_limit_iff hAccepted hFits,
    givesAtMost_cap_iff hAccepted, givesAtMost_cap_iff hAccepted⟩

/-- In an environment that sets the cap to minus one, a request for one campaign or ad group has no
bound. -/
theorem limits_not_binding :
    Request.Accepted ⟨[], [], 1⟩ ∧
      ¬ GivesAtMost 1 (fetchCampaigns (AppSettings.ofVariables (.ofCap (-1))).fetch ⟨[], [], 1⟩) ∧
      ¬ GivesAtMost 1 (fetchAdGroups (AppSettings.ofVariables (.ofCap (-1))).fetch ⟨[], [], 1⟩) := by
  have hMax : (AppSettings.ofVariables (.ofCap (-1))).fetch.maxLimit = some (-1) :=
    ofVariables_maxLimit (by decide) (if_pos rfl)
  have hNegative : ¬ (AppSettings.ofVariables (.ofCap (-1))).fetch.CapNonneg := fun hCap =>
    absurd (hCap (-1) hMax) (by decide)
  have hIff := limits_bind_iff (s := (AppSettings.ofVariables (.ofCap (-1))).fetch)
    (r := ⟨[], [], 1⟩) (by decide) (by decide)
  exact ⟨by decide, fun h => hNegative (hIff.1.mp h), fun h => hNegative (hIff.2.1.mp h)⟩

end

end CampaignFetch

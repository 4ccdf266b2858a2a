import CampaignFetch.Fetch.Engine
import CampaignFetch.Proofs.FilterMeaning

/-!
# What a fetch does before and after its join

A request is accepted when its limit is positive and the operators of its filters are supported.

* `FetchSettings.plan_eq`, `FetchSettings.plan_eq_ok`: the plan of an accepted request, and that no
  other request has one.
* `Request.refusal?`, `FetchSettings.plan_of_refusal`: why any other request is refused.
* `fetchGroups_run`, `accepted_of_run_eq_ok`: an accepted request is one join whose rows are
  assembled, and no other request gives anything.
* `FetchSettings.fetchFrom_run`, `FetchSettings.fetchFrom_of_refusal`: the same for both directions
  at once.
* `groupLimit_of_capNonneg`, `groupLimit_of_not_capNonneg`: without a negative cap the number of
  groups is bounded by limit and cap, with one it has no bound.
-/

namespace CampaignFetch

/-- The limit is positive and the operators of all filters are supported. -/
def Request.Accepted (r : Request) : Prop := 1 ≤ r.limit ∧ ∀ f ∈ r.filters, f.Supported

instance (r : Request) : Decidable r.Accepted := by
  unfold Request.Accepted
  infer_instance

/-- Why a request is refused before its join, if it is. The limit is looked at first. -/
def Request.refusal? (r : Request) : Option FetchFault :=
  if r.limit < 1 then some (.limitNotPositive r.limit)
  else (r.filters.findSome? Filter.unsupported?).map .unsupportedOperator

theorem Request.refusal?_eq_none_iff {r : Request} : r.refusal? = none ↔ r.Accepted := by
  unfold refusal? Accepted
  split
  · rename_i hLimit
    simp only [reduceCtorEq, false_iff, not_and]
    omega
  · rename_i hLimit
    simp only [Option.map_eq_none_iff, List.findSome?_eq_none_iff, Filter.unsupported?_eq_none_iff]
    exact (and_iff_right (Int.not_lt.mp hLimit)).symm

theorem JoinQuery.mem_distinct {columns : List Column} {c : Column} :
    c ∈ distinct columns ↔ c ∈ columns := by
  have hFold : ∀ (columns seen : List Column),
      c ∈ columns.foldl (fun seen c => if seen.contains c then seen else seen ++ [c]) seen ↔
        c ∈ seen ∨ c ∈ columns := by
    intro columns
    induction columns with
    | nil => simp
    | cons d columns ih =>
      intro seen
      rw [List.foldl_cons, ih]
      by_cases hSeen : d ∈ seen
      · rw [if_pos (by simpa using hSeen), List.mem_cons]
        exact ⟨fun h => h.imp_right Or.inr, fun h => h.elim Or.inl fun h =>
          h.elim (fun hEq => Or.inl (hEq ▸ hSeen)) Or.inr⟩
      · rw [if_neg (by simpa using hSeen)]
        simp [or_assoc]
  simpa [distinct] using hFold columns []

namespace FetchSettings

/-! ## Limits -/

/-- The limit or the cap, whichever is less. -/
def capLimit (s : FetchSettings) (limit : Int) : Int :=
  match s.maxLimit with
  | some cap => min limit cap
  | none => limit

/-- No negative cap is set. -/
def CapNonneg (s : FetchSettings) : Prop := ∀ cap ∈ s.maxLimit, 0 ≤ cap

instance (s : FetchSettings) : Decidable s.CapNonneg := by
  unfold CapNonneg
  infer_instance

variable {s : FetchSettings} {primary : Kind} {r : Request}

theorem effectiveLimit_eq {limit : Int} (h : 1 ≤ limit) :
    s.effectiveLimit limit = .ok (s.capLimit limit) := by
  unfold effectiveLimit capLimit
  rw [if_neg (by omega)]
  cases s.maxLimit with
  | none => rfl
  | some cap =>
    have hMin : (if limit > cap then cap else limit) = min limit cap := by
      split <;> omega
    exact congrArg Except.ok hMin

theorem capLimit_le (s : FetchSettings) {limit : Int} : s.capLimit limit ≤ limit := by
  unfold capLimit
  cases s.maxLimit with
  | none => exact Int.le_refl _
  | some cap => exact Int.min_le_left _ _

theorem capLimit_le_cap {cap : Int} (h : cap ∈ s.maxLimit) (limit : Int) :
    s.capLimit limit ≤ cap := by
  rw [capLimit, Option.mem_def.mp h]
  exact Int.min_le_right _ _

theorem capLimit_nonneg (hCap : s.CapNonneg) {limit : Int} (h : 1 ≤ limit) :
    0 ≤ s.capLimit limit := by
  unfold capLimit
  cases hMax : s.maxLimit with
  | none => exact Int.le_trans (by decide) h
  | some cap => exact Int.le_min.mpr ⟨Int.le_trans (by decide) h, hCap cap hMax⟩

theorem groupLimit_of_capNonneg (hCap : s.CapNonneg) {limit : Int} (h : 1 ≤ limit) :
    groupLimit (s.capLimit limit) = some (s.capLimit limit).toNat := by
  have hNonneg := capLimit_nonneg hCap h
  rw [groupLimit, if_neg (by omega)]

theorem groupLimit_of_not_capNonneg (hCap : ¬ s.CapNonneg) (limit : Int) :
    groupLimit (s.capLimit limit) = none := by
  obtain ⟨cap, hMax, hNeg⟩ : ∃ cap ∈ s.maxLimit, cap < 0 := by simpa [CapNonneg] using hCap
  rw [groupLimit, capLimit, Option.mem_def.mp hMax, if_pos (by dsimp only; omega)]

/-! ## Plans -/

/-- The columns of the primary kind that a request selects. -/
def ownColumns (s : FetchSettings) (primary : Kind) (r : Request) : List Column :=
  resolve primary
    (Selection.of primary (s.direction primary).allFieldsWhenEmpty r.fields).primary

/-- The columns of the related kind that a request selects. -/
def relatedColumns (s : FetchSettings) (primary : Kind) (r : Request) : List Column :=
  resolve primary.other
    (Selection.of primary (s.direction primary).allFieldsWhenEmpty r.fields).related

/-- The join that a request asks for, when the operators of its filters are supported. -/
def joinQuery (s : FetchSettings) (primary : Kind) (r : Request) : JoinQuery :=
  .of primary (s.ownColumns primary r) (s.relatedColumns primary r)
    (.ofSupported primary r.filters)

/-- The plan of an accepted request. -/
def planOf (s : FetchSettings) (primary : Kind) (r : Request) : FetchPlan where
  own := s.ownColumns primary r
  related := s.relatedColumns primary r
  query := s.joinQuery primary r
  limit := groupLimit (s.capLimit r.limit)
  keep := (s.direction primary).keepRowsWithoutRelated

theorem plan_eq (h : r.Accepted) : s.plan primary r = .ok (s.planOf primary r) := by
  simp only [plan, effectiveLimit_eq h.1, Restriction.of_eq_ok h.2, bind, Except.bind]
  rfl

theorem plan_eq_ok {plan : FetchPlan} (h : s.plan primary r = .ok plan) :
    r.Accepted ∧ plan = s.planOf primary r := by
  have hAccepted : r.Accepted := by
    unfold FetchSettings.plan at h
    cases hRestriction : Restriction.of primary r.filters with
    | error fault =>
      cases hLimit : s.effectiveLimit r.limit <;>
        simp [hLimit, hRestriction, bind, Except.bind] at h
    | ok restriction =>
      refine ⟨Decidable.byContradiction fun hNot => ?_, Restriction.supported_of_eq_ok hRestriction⟩
      simp [effectiveLimit, show r.limit < 1 by omega, bind, Except.bind] at h
  rw [plan_eq hAccepted] at h
  exact ⟨hAccepted, (Except.ok.inj h).symm⟩

theorem plan_of_refusal {fault : FetchFault} (h : r.refusal? = some fault) :
    s.plan primary r = .error fault := by
  unfold Request.refusal? at h
  split at h
  · rename_i hLimit
    simp only [plan, effectiveLimit, if_pos hLimit, ← Option.some.inj h, bind, Except.bind]
  · rename_i hLimit
    obtain ⟨operator, hFound, rfl⟩ := Option.map_eq_some_iff.mp h
    simp only [plan, effectiveLimit_eq (Int.not_lt.mp hLimit), Restriction.of, Restriction.half,
      Restriction.checkOperators, hFound, bind, Except.bind]

theorem own_subset : s.ownColumns primary r ⊆ (s.joinQuery primary r).projection :=
  fun _ hc => JoinQuery.mem_distinct.mpr (List.mem_append_left _ hc)

theorem related_subset : s.relatedColumns primary r ⊆ (s.joinQuery primary r).projection :=
  fun _ hc => JoinQuery.mem_distinct.mpr (List.mem_append_right _ hc)

/-- The identities of both kinds are always fetched. -/
theorem identity_mem_projection (s : FetchSettings) (primary : Kind) (r : Request) (k : Kind) :
    k.identity ∈ (s.joinQuery primary r).projection := by
  have hSelected : ∀ all fields, k.identity.SelectedBy primary all fields := fun _ _ =>
    .inl (.inl (by rw [k.identity_kind]))
  by_cases hPrimary : k = primary
  · exact own_subset (mem_selected_own_iff.mpr ⟨k.identity_kind.trans hPrimary, hSelected _ _⟩)
  · have hOther := Kind.eq_other_of_ne hPrimary
    exact related_subset (mem_selected_related_iff.mpr
      ⟨k.identity_kind.trans hOther, hSelected _ _⟩)

end FetchSettings

/-! ## Fetches -/

theorem Program.run_map {σ ε α β : Type} (b : Backend σ) (x : ExceptT ε Program α) (f : α → β)
    (state : σ) :
    (do return f (← x) : ExceptT ε Program β).run.run b state =
      ((x.run.run b state).1.map f, (x.run.run b state).2) := by
  change (Program.bind x.run _).run b state = _
  rw [Program.run_bind]
  cases (x.run.run b state).1 <;> rfl

section

variable {P R σ : Type} [Entity P] [Entity R] {s : FetchSettings} {r : Request} {b : Backend σ}
  {state : σ}

theorem fetchGroups_run (h : r.Accepted) :
    ((fetchGroups P R s r).run.run b state).1 =
      match (b.join (s.joinQuery (Entity.kind P) r) state).1 with
      | .error fault => .error (.execution fault)
      | .ok rows => .ok (assemble (s.ownColumns (Entity.kind P) r)
          (s.relatedColumns (Entity.kind P) r) (FetchSettings.groupLimit (s.capLimit r.limit))
          (s.direction (Entity.kind P)).keepRowsWithoutRelated rows) := by
  simp only [fetchGroups, FetchSettings.plan_eq h]
  rfl

/-- What an accepted request leaves is what its join leaves. -/
theorem fetchGroups_run_state (h : r.Accepted) :
    ((fetchGroups P R s r).run.run b state).2 =
      (b.join (s.joinQuery (Entity.kind P) r) state).2 := by
  simp only [fetchGroups, FetchSettings.plan_eq h]
  rfl

/-- A request that is refused asks nothing. -/
theorem fetchGroups_of_refusal {fault : FetchFault} (h : r.refusal? = some fault) :
    fetchGroups P R s r = throw fault := by
  simp only [fetchGroups, FetchSettings.plan_of_refusal h]

theorem fetchCampaigns_run :
    (fetchCampaigns s r).run.run b state =
      (((fetchGroups Campaign AdGroup s r).run.run b state).1.map
        (List.map fun g => ⟨g.primary, g.related⟩),
        ((fetchGroups Campaign AdGroup s r).run.run b state).2) :=
  Program.run_map b _ _ state

theorem fetchAdGroups_run :
    (fetchAdGroups s r).run.run b state =
      (((fetchGroups AdGroup Campaign s r).run.run b state).1.map
        (List.map fun g => { g.primary with campaign := g.related.head? }),
        ((fetchGroups AdGroup Campaign s r).run.run b state).2) :=
  Program.run_map b _ _ state

/-- Only an accepted request gives groups. -/
theorem accepted_of_run_eq_ok {groups : List (Group P R)}
    (h : ((fetchGroups P R s r).run.run b state).1 = .ok groups) : r.Accepted := by
  cases hPlan : s.plan (Entity.kind P) r with
  | ok plan => exact (FetchSettings.plan_eq_ok hPlan).1
  | error fault =>
    simp only [fetchGroups, hPlan] at h
    cases h

end

/-! ## Either direction -/

/-- What a fetch gives in either direction. -/
inductive Fetched where
  | campaigns (results : List CampaignResult)
  | adGroups (results : List AdGroup)
  deriving DecidableEq

/-- Fetches in the direction of a primary kind. -/
def fetchFrom (s : FetchSettings) : Kind → Request → ExceptT FetchFault Program Fetched
  | .campaign, r => do return .campaigns (← fetchCampaigns s r)
  | .adGroup, r => do return .adGroups (← fetchAdGroups s r)

namespace FetchSettings

variable {σ : Type} {s : FetchSettings} {k : Kind} {r : Request} {b : Backend σ} {state : σ}

/-- The groups that rows make for a request. -/
def groupsOf (P R : Type) [Entity P] [Entity R] (s : FetchSettings) (r : Request)
    (rows : List Row) : List (Group P R) :=
  assemble (s.ownColumns (Entity.kind P) r) (s.relatedColumns (Entity.kind P) r)
    (groupLimit (s.capLimit r.limit)) (s.direction (Entity.kind P)).keepRowsWithoutRelated rows

/-- What a request is given from the rows of its join. -/
def resultsOf (s : FetchSettings) (k : Kind) (r : Request) (rows : List Row) : Fetched :=
  match k with
  | .campaign => .campaigns ((s.groupsOf Campaign AdGroup r rows).map fun g =>
      ⟨g.primary, g.related⟩)
  | .adGroup => .adGroups ((s.groupsOf AdGroup Campaign r rows).map fun g =>
      { g.primary with campaign := g.related.head? })

/-- What a request is given when its join ends in some way. -/
def answerOf (s : FetchSettings) (k : Kind) (r : Request) :
    JoinReply → Except FetchFault Fetched
  | .error fault => .error (.execution fault)
  | .ok rows => .ok (s.resultsOf k r rows)

/-- The fetch of an accepted request is its join and what comes of that. -/
theorem fetchFrom_run (h : r.Accepted) :
    (fetchFrom s k r).run.run b state =
      (s.answerOf k r (b.join (s.joinQuery k r) state).1, (b.join (s.joinQuery k r) state).2) := by
  cases k with
  | campaign =>
    change (do return Fetched.campaigns (← fetchCampaigns s r) :
      ExceptT FetchFault Program Fetched).run.run b state = _
    rw [Program.run_map, fetchCampaigns_run, fetchGroups_run h, fetchGroups_run_state h]
    simp only [Entity.kind]
    cases (b.join (s.joinQuery .campaign r) state).1 <;> rfl
  | adGroup =>
    change (do return Fetched.adGroups (← fetchAdGroups s r) :
      ExceptT FetchFault Program Fetched).run.run b state = _
    rw [Program.run_map, fetchAdGroups_run, fetchGroups_run h, fetchGroups_run_state h]
    simp only [Entity.kind]
    cases (b.join (s.joinQuery .adGroup r) state).1 <;> rfl

/-- A refused request asks nothing and is told why. -/
theorem fetchFrom_of_refusal {fault : FetchFault} (h : r.refusal? = some fault) :
    fetchFrom s k r = throw fault := by
  cases k <;> simp only [fetchFrom, fetchCampaigns, fetchAdGroups, fetchGroups_of_refusal h] <;> rfl

end FetchSettings

end CampaignFetch

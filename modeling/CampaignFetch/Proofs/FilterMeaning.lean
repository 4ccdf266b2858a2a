import CampaignFetch.Fetch.JoinQuery
import CampaignFetch.Proofs.ScopedNames

/-!
# What a list of filters means

`Filter.Accepts` says when the text of a column satisfies a filter, and `Filter.AllAccept` that a
reading of the columns satisfies every filter whose name means a column.

* `Restriction.of_eq_ok`: a list of filters gives conditions exactly when all operators are
  supported.
* `accepts_iff`: a row satisfies the condition of the query made from a list of filters exactly when
  its texts satisfy all of the filters.
-/

namespace CampaignFetch

/-! ## Filters -/

/-- The text of a column satisfies the filter. No text does, that of a null column. -/
def Filter.Accepts (f : Filter) (text : Option String) : Prop :=
  ∃ t ∈ text, match f.operator with
    | .equals => ∃ value ∈ f.values, Text.lowercase t = Text.lowercase value
    | .isIn => t ∈ f.values
    | .unsupported _ => False

instance (f : Filter) (text : Option String) : Decidable (f.Accepts text) := by
  unfold Filter.Accepts
  cases f.operator <;> infer_instance

/-- The operator of the filter is one of the two that are supported. -/
def Filter.Supported (f : Filter) : Prop := f.operator = .equals ∨ f.operator = .isIn

instance (f : Filter) : Decidable f.Supported := by
  unfold Filter.Supported
  infer_instance

/-- The texts of the columns satisfy every filter whose name means a column. -/
def Filter.AllAccept (primary : Kind) (filters : List Filter) (text : Column → Option String) :
    Prop :=
  ∀ f ∈ filters, ∀ c : Column, c.NamedBy primary f.field → f.Accepts (text c)

instance (primary : Kind) (filters : List Filter) (text : Column → Option String) :
    Decidable (Filter.AllAccept primary filters text) :=
  decidable_of_iff
    (∀ f ∈ filters, ∀ c ∈ Kind.campaign.columns ++ Kind.adGroup.columns,
      c.NamedBy primary f.field → f.Accepts (text c))
    ⟨fun h f hf c => h f hf c (by cases c <;> decide), fun h f hf c _ => h f hf c⟩

theorem Filter.unsupported?_eq_none_iff {f : Filter} : f.unsupported? = none ↔ f.Supported := by
  unfold Filter.unsupported? Filter.Supported
  cases f.operator <;> simp

/-! ## Conditions -/

namespace Condition

theorem allHold_eq_all (row : Row) (cs : List Condition) :
    allHold row cs = cs.all (holds row) := by
  induction cs with
  | nil => simp [allHold]
  | cons c cs ih => simp [allHold, ih]

theorem anyHolds_eq_any (row : Row) (cs : List Condition) :
    anyHolds row cs = cs.any (holds row) := by
  induction cs with
  | nil => simp [anyHolds]
  | cons c cs ih => simp [anyHolds, ih]

/-- No condition is satisfied everywhere. -/
theorem all_allOf (row : Row) (cs : List Condition) :
    (allOf cs).all (holds row) = cs.all (holds row) := by
  match cs with
  | [] => rfl
  | [c] => simp [allOf]
  | c :: d :: cs => simp [allOf, holds, allHold_eq_all]

/-- No condition is satisfied nowhere. -/
theorem any_anyOf (row : Row) (cs : List Condition) :
    (anyOf cs).any (holds row) = cs.any (holds row) := by
  match cs with
  | [] => rfl
  | [c] => simp [anyOf]
  | c :: d :: cs => simp [anyOf, holds, anyHolds_eq_any]

theorem anyOf_eq_none_iff {cs : List Condition} : anyOf cs = none ↔ cs = [] := by
  match cs with
  | [] => simp [anyOf]
  | [c] => simp [anyOf]
  | c :: d :: cs => simp [anyOf]

end Condition

namespace Filter

theorem holds_condition? {f : Filter} (h : f.Supported) (c : Column) (row : Row) :
    ∃ condition, f.condition? c = some condition ∧
      (condition.holds row = true ↔ f.Accepts (row.text? c)) := by
  rcases h with h | h
  · simp only [condition?, h, Accepts]
    refine ⟨_, rfl, ?_⟩
    cases hAny : Condition.anyOf (f.values.map (Condition.equals c)) with
    | none =>
      have hNil : f.values = [] := List.map_eq_nil_iff.mp (Condition.anyOf_eq_none_iff.mp hAny)
      simp [Condition.holds, hNil]
    | some condition =>
      have hHolds := Condition.any_anyOf row (f.values.map (Condition.equals c))
      rw [hAny, Option.any_some] at hHolds
      rw [Option.getD_some, hHolds]
      cases hText : row.text? c with
      | none => simp [Condition.holds, hText]
      | some t => simp [Condition.holds, hText, Condition.sameLowercase]
  · simp only [condition?, h, Accepts]
    refine ⟨_, rfl, ?_⟩
    cases hText : row.text? c <;> simp [Condition.holds, hText]

/-- A filter sets a condition in the half of a kind when its name means a column of that kind. -/
theorem conditionFor?_eq_some_iff {primary target : Kind} {f : Filter} {condition : Condition} :
    f.conditionFor? primary target = some condition ↔
      ∃ c : Column, c.kind = target ∧ c.NamedBy primary f.field ∧
        f.condition? c = some condition := by
  unfold conditionFor?
  simp only [← scope_eq_iff]
  cases hScope : scope primary f.field with
  | mk k name =>
    simp only [Prod.mk.injEq]
    by_cases hKind : k = target
    · rw [if_pos hKind, Option.bind_eq_some_iff]
      simp only [Kind.column?_eq_some_iff]
      constructor
      · rintro ⟨c, ⟨rfl, rfl⟩, hc⟩
        exact ⟨c, hKind, ⟨rfl, rfl⟩, hc⟩
      · rintro ⟨c, -, ⟨hk, hName⟩, hc⟩
        exact ⟨c, ⟨hk.symm, hName.symm⟩, hc⟩
    · rw [if_neg hKind]
      constructor
      · intro h
        cases h
      · rintro ⟨c, hTarget, ⟨hk, -⟩, -⟩
        exact absurd (hk.trans hTarget) hKind

/-- All conditions in the half of a kind hold when the filters on its columns are satisfied. -/
theorem all_conditionFor?_iff {primary target : Kind} {filters : List Filter} {row : Row}
    (hSupported : ∀ f ∈ filters, f.Supported) :
    (filters.filterMap (conditionFor? primary target)).all (Condition.holds row) = true ↔
      ∀ f ∈ filters, ∀ c : Column, c.kind = target → c.NamedBy primary f.field →
        f.Accepts (row.text? c) := by
  simp only [List.all_eq_true, List.mem_filterMap, conditionFor?_eq_some_iff]
  constructor
  · intro h f hf c hKind hName
    obtain ⟨condition, hCondition, hHolds⟩ := holds_condition? (hSupported f hf) c row
    exact hHolds.mp (h condition ⟨f, hf, c, hKind, hName, hCondition⟩)
  · rintro h condition ⟨f, hf, c, hKind, hName, hCondition⟩
    obtain ⟨condition', hCondition', hHolds⟩ := holds_condition? (hSupported f hf) c row
    rw [hCondition] at hCondition'
    cases hCondition'
    exact hHolds.mpr (h f hf c hKind hName)

end Filter

/-! ## Restrictions -/

namespace Restriction

theorem checkOperators_eq_ok_iff {filters : List Filter} :
    checkOperators filters = .ok () ↔ ∀ f ∈ filters, f.Supported := by
  simp only [checkOperators, ← Filter.unsupported?_eq_none_iff, ← List.findSome?_eq_none_iff]
  cases filters.findSome? Filter.unsupported? <;> simp

/-- The conditions that filters set on both tables, when all operators are supported. -/
def ofSupported (primary : Kind) (filters : List Filter) : Restriction where
  primary := Condition.allOf (filters.filterMap (Filter.conditionFor? primary primary))
  related := Condition.allOf (filters.filterMap (Filter.conditionFor? primary primary.other))

theorem of_eq_ok {primary : Kind} {filters : List Filter} (h : ∀ f ∈ filters, f.Supported) :
    Restriction.of primary filters = .ok (ofSupported primary filters) := by
  simp only [Restriction.of, half, checkOperators_eq_ok_iff.mpr h]
  rfl

theorem supported_of_eq_ok {primary : Kind} {filters : List Filter} {r : Restriction}
    (h : Restriction.of primary filters = .ok r) : ∀ f ∈ filters, f.Supported := by
  refine checkOperators_eq_ok_iff.mp ?_
  cases hCheck : checkOperators filters with
  | ok _ => rfl
  | error fault => simp [Restriction.of, half, hCheck, bind, Except.bind] at h

end Restriction

/-- A row satisfies a query when it satisfies the conditions on both tables. -/
theorem JoinQuery.accepts_of (primary : Kind) (own related : List Column) (r : Restriction)
    (row : Row) :
    (JoinQuery.of primary own related r).accepts row =
      (r.primary.all (Condition.holds row) && r.related.all (Condition.holds row)) := by
  simp only [JoinQuery.accepts, JoinQuery.of, Condition.all_allOf, List.all_append]
  cases r.primary <;> cases r.related <;> simp

/-- A row satisfies the query made from filters exactly when its texts satisfy the filters. -/
theorem accepts_iff {primary : Kind} {own related : List Column} {filters : List Filter} {row : Row}
    (hSupported : ∀ f ∈ filters, f.Supported) :
    (JoinQuery.of primary own related (.ofSupported primary filters)).accepts row = true ↔
      Filter.AllAccept primary filters row.text? := by
  simp only [JoinQuery.accepts_of, Restriction.ofSupported, Condition.all_allOf, Bool.and_eq_true,
    Filter.all_conditionFor?_iff hSupported, Filter.AllAccept]
  constructor
  · rintro ⟨hOwn, hRelated⟩ f hf c hName
    by_cases hKind : c.kind = primary
    · exact hOwn f hf c hKind hName
    · exact hRelated f hf c (Kind.eq_other_of_ne hKind) hName
  · intro h
    exact ⟨fun f hf c _ => h f hf c, fun f hf c _ => h f hf c⟩

end CampaignFetch

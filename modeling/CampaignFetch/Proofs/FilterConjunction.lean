import CampaignFetch.Proofs.RequestSequences
import Mathlib.Logic.ExistsUnique

/-!
# A list of filters is a conjunction

A list of filters is compiled in two passes, one for each table, and the conditions of a pass are
collapsed when there are none of them or only one. None of this shows in what the list means: a row
satisfies it exactly when every filter whose name means a column accepts the text of that column.

* `Restriction.on` is the half of a restriction on the table of a kind, and `Condition.columns` are
  the columns that a condition compares.
* `Restriction.of_eq_error_iff`, `Restriction.exists_error_iff`: a list is refused for its first
  unsupported operator, and for nothing else.
* `Restriction.holds_on_iff`, `Restriction.mem_columns_on_iff`: a half is the conjunction of the
  filters on its own table, and compares the columns of these.
* `Filter.KnownIn`: a list says no more than another one, whatever the order and the repetitions of
  filters and of values, and whatever filters mean no column.
* `filters_conjunction` puts this together.
-/

namespace CampaignFetch

/-! ## Columns of a condition -/

namespace Condition

mutual

/-- The columns that the condition compares, in order. -/
def columns : Condition → List Column
  | .equals column _ => [column]
  | .isIn column _ => [column]
  | .all members => columnsOfAll members
  | .any members => columnsOfAll members

/-- The columns that several conditions compare, in order. -/
def columnsOfAll : List Condition → List Column
  | [] => []
  | c :: cs => columns c ++ columnsOfAll cs

end

theorem mem_columnsOfAll {x : Column} {cs : List Condition} :
    x ∈ columnsOfAll cs ↔ ∃ c ∈ cs, x ∈ c.columns := by
  induction cs with
  | nil => simp [columnsOfAll]
  | cons c cs ih => simp [columnsOfAll, ih]

theorem mem_columns_allOf {x : Column} {cs : List Condition} :
    (∃ c ∈ allOf cs, x ∈ c.columns) ↔ ∃ c ∈ cs, x ∈ c.columns := by
  match cs with
  | [] => simp [allOf]
  | [c] => simp [allOf]
  | c :: d :: cs => simp [allOf, columns, mem_columnsOfAll]

/-- A disjunction of comparisons of one column compares that column, even when it is empty. -/
theorem mem_columns_anyEqual {c x : Column} {values : List String} :
    x ∈ ((anyOf (values.map (equals c))).getD (.isIn c [])).columns ↔ x = c := by
  match values with
  | [] => simp [anyOf, columns]
  | [v] => simp [anyOf, columns]
  | v :: w :: vs => simp [anyOf, columns, mem_columnsOfAll]

end Condition

/-! ## Single filters -/

theorem Column.NamedBy.unique {primary : Kind} {name : String} {c d : Column}
    (hc : c.NamedBy primary name) (hd : d.NamedBy primary name) : c = d := by
  have hScope := (scope_eq_iff.mpr hc).symm.trans (scope_eq_iff.mpr hd)
  exact Column.field_inj (congrArg Prod.fst hScope) (congrArg Prod.snd hScope)

theorem Row.text?_eq_none_iff {row : Row} {c : Column} :
    row.text? c = none ↔ row.get c = .null := by
  unfold Row.text?
  cases row.get c <;> simp [Json.text?]

namespace Filter

variable {primary : Kind} {f g : Filter} {filters others : List Filter}

theorem Accepts.exists_text {text : Option String} (h : f.Accepts text) :
    text ≠ none ∧ f.values ≠ [] := by
  obtain ⟨t, rfl, hAccepts⟩ := h
  refine ⟨Option.some_ne_none t, fun hNil => ?_⟩
  revert hAccepts
  cases f.operator <;> simp [hNil]

theorem Accepts.congr {text : Option String} (hOperator : g.operator = f.operator)
    (hValues : ∀ v, v ∈ g.values ↔ v ∈ f.values) (h : g.Accepts text) : f.Accepts text := by
  obtain ⟨t, ht, hAccepts⟩ := h
  refine ⟨t, ht, ?_⟩
  rw [hOperator] at hAccepts
  revert hAccepts
  cases f.operator <;> simp [hValues]

/-- The condition of a filter on a column compares that column only. -/
theorem mem_columns_condition? {c x : Column} {condition : Condition}
    (h : f.condition? c = some condition) : x ∈ condition.columns ↔ x = c := by
  unfold condition? at h
  split at h
  · cases h
    exact Condition.mem_columns_anyEqual
  · cases h
    exact List.mem_singleton
  · cases h

theorem isSome_conditionFor?_iff (hSupported : f.Supported) {k : Kind} :
    (f.conditionFor? primary k).isSome = true ↔
      ∃ c : Column, c.kind = k ∧ c.NamedBy primary f.field := by
  rw [Option.isSome_iff_exists]
  constructor
  · rintro ⟨condition, hCondition⟩
    obtain ⟨c, hKind, hName, -⟩ := conditionFor?_eq_some_iff.mp hCondition
    exact ⟨c, hKind, hName⟩
  · rintro ⟨c, hKind, hName⟩
    obtain ⟨condition, hCondition, -⟩ := holds_condition? hSupported c Row.empty
    exact ⟨condition, conditionFor?_eq_some_iff.mpr ⟨c, hKind, hName, hCondition⟩⟩

theorem existsUnique_conditionFor? (hSupported : f.Supported) {c : Column}
    (hName : c.NamedBy primary f.field) : ∃! k, (f.conditionFor? primary k).isSome = true := by
  refine ⟨c.kind, (isSome_conditionFor?_iff hSupported).mpr ⟨c, rfl, hName⟩, fun k hk => ?_⟩
  obtain ⟨d, hKind, hOther⟩ := (isSome_conditionFor?_iff hSupported).mp hk
  rw [← hKind, hOther.unique hName]

/-- Every filter of the first list whose name means a column has a filter on that column in the
second one, with the same operator and the same values up to their order and repetitions. -/
def KnownIn (primary : Kind) (filters others : List Filter) : Prop :=
  ∀ f ∈ filters, ∀ c : Column, c.NamedBy primary f.field →
    ∃ g ∈ others, c.NamedBy primary g.field ∧ g.operator = f.operator ∧
      ∀ v, v ∈ g.values ↔ v ∈ f.values

instance (primary : Kind) (filters others : List Filter) :
    Decidable (KnownIn primary filters others) :=
  decidable_of_iff
    (∀ f ∈ filters, ∀ c ∈ Kind.campaign.columns ++ Kind.adGroup.columns,
      c.NamedBy primary f.field → ∃ g ∈ others, c.NamedBy primary g.field ∧
        g.operator = f.operator ∧ (∀ v ∈ g.values, v ∈ f.values) ∧ ∀ v ∈ f.values, v ∈ g.values) (by
    simp only [KnownIn, mem_columns_append, forall_const, iff_iff_implies_and_implies, forall_and])

theorem AllAccept.of_knownIn {text : Column → Option String} (h : KnownIn primary filters others)
    (hOthers : AllAccept primary others text) : AllAccept primary filters text := by
  intro f hf c hName
  obtain ⟨g, hg, hNamed, hOperator, hValues⟩ := h f hf c hName
  exact (hOthers g hg c hNamed).congr hOperator hValues

end Filter

/-! ## Halves -/

namespace Restriction

variable {primary k : Kind} {filters : List Filter}

/-- The condition on the table of a kind. -/
def on (r : Restriction) (primary k : Kind) : Option Condition :=
  if k = primary then r.primary else r.related

theorem on_ofSupported :
    (ofSupported primary filters).on primary k =
      Condition.allOf (filters.filterMap (Filter.conditionFor? primary k)) := by
  unfold on
  split
  · rename_i hPrimary
    rw [hPrimary]
    rfl
  · rename_i hRelated
    rw [Kind.eq_other_of_ne hRelated]
    rfl

theorem holds_on_iff (hSupported : ∀ f ∈ filters, f.Supported) {row : Row} :
    ((ofSupported primary filters).on primary k).all (Condition.holds row) = true ↔
      ∀ f ∈ filters, ∀ c : Column, c.kind = k → c.NamedBy primary f.field →
        f.Accepts (row.text? c) := by
  rw [on_ofSupported, Condition.all_allOf, Filter.all_conditionFor?_iff hSupported]

theorem mem_columns_on_iff (hSupported : ∀ f ∈ filters, f.Supported) {x : Column} :
    (∃ condition ∈ (ofSupported primary filters).on primary k, x ∈ condition.columns) ↔
      x.kind = k ∧ ∃ f ∈ filters, x.NamedBy primary f.field := by
  rw [on_ofSupported, Condition.mem_columns_allOf]
  simp only [List.mem_filterMap, Filter.conditionFor?_eq_some_iff]
  constructor
  · rintro ⟨condition, ⟨f, hf, c, hKind, hName, hCondition⟩, hx⟩
    obtain rfl := (Filter.mem_columns_condition? hCondition).mp hx
    exact ⟨hKind, f, hf, hName⟩
  · rintro ⟨hKind, f, hf, hName⟩
    obtain ⟨condition, hCondition, -⟩ := Filter.holds_condition? (hSupported f hf) x Row.empty
    exact ⟨condition, ⟨f, hf, x, hKind, hName, hCondition⟩,
      (Filter.mem_columns_condition? hCondition).mpr rfl⟩

theorem of_eq_error_iff {fault : FetchFault} :
    of primary filters = .error fault ↔
      ∃ before f after operator, filters = before ++ f :: after ∧
        (∀ g ∈ before, g.Supported) ∧ f.operator = .unsupported operator ∧
        fault = .unsupportedOperator operator := by
  have hFirst : ∀ operator, filters.findSome? Filter.unsupported? = some operator ↔
      ∃ before f after, filters = before ++ f :: after ∧ (∀ g ∈ before, g.Supported) ∧
        f.operator = .unsupported operator := fun operator =>
    Request.findSome?_unsupported?_eq_some_iff (r := ⟨[], filters, 1⟩)
  have hCheck : of primary filters = .error fault ↔
      ∃ operator, filters.findSome? Filter.unsupported? = some operator ∧
        fault = .unsupportedOperator operator := by
    unfold of half checkOperators
    cases filters.findSome? Filter.unsupported? with
    | none => simp [bind, Except.bind, pure, Except.pure]
    | some operator => simp [bind, Except.bind, eq_comm]
  rw [hCheck]
  simp only [hFirst]
  constructor
  · rintro ⟨operator, ⟨before, f, after, hFilters, hBefore, hOperator⟩, hFault⟩
    exact ⟨before, f, after, operator, hFilters, hBefore, hOperator, hFault⟩
  · rintro ⟨before, f, after, operator, hFilters, hBefore, hOperator, hFault⟩
    exact ⟨operator, ⟨before, f, after, hFilters, hBefore, hOperator⟩, hFault⟩

theorem exists_error_iff :
    (∃ fault, of primary filters = .error fault) ↔ ∃ f ∈ filters, ¬ f.Supported := by
  constructor
  · rintro ⟨fault, hFault⟩
    obtain ⟨before, f, after, operator, rfl, -, hOperator, -⟩ := of_eq_error_iff.mp hFault
    refine ⟨f, List.mem_append_right _ List.mem_cons_self, ?_⟩
    rintro (hEquals | hIsIn)
    · cases hOperator.symm.trans hEquals
    · cases hOperator.symm.trans hIsIn
  · rintro ⟨f, hf, hNot⟩
    cases hOf : of primary filters with
    | error fault => exact ⟨fault, rfl⟩
    | ok r => exact absurd (supported_of_eq_ok hOf f hf) hNot

/-- What the restriction of a list of filters says. -/
structure Conjoins (primary : Kind) (filters : List Filter) (r : Restriction) : Prop where
  /-- A row is accepted when all filters accept the texts of the columns that they mean. -/
  accepts : ∀ (own related : List Column) (row : Row),
    (JoinQuery.of primary own related r).accepts row = true ↔
      ∀ f ∈ filters, ∀ c : Column, c.NamedBy primary f.field → f.Accepts (row.text? c)
  /-- No row is accepted with null in the column of a filter, and none for a filter on a column that
  has no values. -/
  refuses : ∀ f ∈ filters, ∀ c : Column, c.NamedBy primary f.field →
    ∀ (own related : List Column) (row : Row), row.get c = .null ∨ f.values = [] →
      (JoinQuery.of primary own related r).accepts row = false
  /-- A half is the conjunction of the filters on the columns of its table. -/
  holds : ∀ (k : Kind) (row : Row), (r.on primary k).all (Condition.holds row) = true ↔
    ∀ f ∈ filters, ∀ c : Column, c.kind = k → c.NamedBy primary f.field →
      f.Accepts (row.text? c)
  /-- A half has one condition for each filter that sets one there, in the order of the filters. -/
  parts : ∀ k : Kind,
    r.on primary k = Condition.allOf (filters.filterMap (Filter.conditionFor? primary k))
  /-- A filter on a column sets a condition in exactly one half. -/
  once : ∀ f ∈ filters, ∀ c : Column, c.NamedBy primary f.field →
    ∃! k, (f.conditionFor? primary k).isSome = true
  /-- A half compares the columns of its own table that filters mean, and no others. -/
  columns : ∀ (k : Kind) (x : Column),
    (∃ condition ∈ r.on primary k, x ∈ condition.columns) ↔
      x.kind = k ∧ ∃ f ∈ filters, x.NamedBy primary f.field

theorem conjoins_ofSupported (hSupported : ∀ f ∈ filters, f.Supported) :
    (ofSupported primary filters).Conjoins primary filters where
  accepts own related row := accepts_iff hSupported
  refuses f hf c hName own related row hNone := by
    rw [Bool.eq_false_iff, ne_eq, accepts_iff hSupported]
    intro hAll
    obtain ⟨hText, hValues⟩ := (hAll f hf c hName).exists_text
    rcases hNone with hNull | hNil
    · exact hText (Row.text?_eq_none_iff.mpr hNull)
    · exact hValues hNil
  holds k row := holds_on_iff hSupported
  parts k := on_ofSupported
  once f hf c hName := Filter.existsUnique_conditionFor? (hSupported f hf) hName
  columns k x := mem_columns_on_iff hSupported

end Restriction

/-- A list of filters is refused for its first unsupported operator and for nothing else. Otherwise
it means the conjunction of the filters on known columns, and another list means the same when its
filters on known columns are the same up to the order and the repetitions of filters and values. -/
theorem filters_conjunction (primary : Kind) (filters : List Filter) :
    (∀ fault, Restriction.of primary filters = .error fault ↔
      ∃ before f after operator, filters = before ++ f :: after ∧
        (∀ g ∈ before, g.Supported) ∧ f.operator = .unsupported operator ∧
        fault = .unsupportedOperator operator) ∧
      ((∃ fault, Restriction.of primary filters = .error fault) ↔ ∃ f ∈ filters, ¬ f.Supported) ∧
      ∀ r, Restriction.of primary filters = .ok r →
        r.Conjoins primary filters ∧
          ∀ others, (∀ g ∈ others, g.Supported) → Filter.KnownIn primary filters others →
            Filter.KnownIn primary others filters →
            ∃ s, Restriction.of primary others = .ok s ∧
              ∀ (own related own' related' : List Column) (row : Row),
                (JoinQuery.of primary own' related' s).accepts row =
                  (JoinQuery.of primary own related r).accepts row := by
  refine ⟨fun fault => Restriction.of_eq_error_iff, Restriction.exists_error_iff, fun r hr => ?_⟩
  have hSupported := Restriction.supported_of_eq_ok hr
  obtain rfl := Except.ok.inj ((Restriction.of_eq_ok hSupported).symm.trans hr)
  refine ⟨Restriction.conjoins_ofSupported hSupported, fun others hOthers hThere hBack => ?_⟩
  refine ⟨_, Restriction.of_eq_ok hOthers, fun own related own' related' row => ?_⟩
  -- the conditions differ in shape, so that only what they accept can be compared
  rw [Bool.eq_iff_iff, accepts_iff hOthers, accepts_iff hSupported]
  exact ⟨Filter.AllAccept.of_knownIn hThere, Filter.AllAccept.of_knownIn hBack⟩

/-- Filters and values in another order and twice, and a filter without values on a name that means
no column, change nothing. -/
theorem filters_conjunction_shuffled :
    ∃ r s, Restriction.of .adGroup [⟨"status", .equals, ["paused", "active"]⟩,
        ⟨"campaign.ksName", .isIn, ["core"]⟩] = .ok r ∧
      Restriction.of .adGroup [⟨"campaign.ksName", .isIn, ["core", "core"]⟩,
        ⟨"adGroup.status", .equals, ["active", "paused"]⟩, ⟨"colour", .equals, []⟩,
        ⟨"status", .equals, ["paused", "active"]⟩] = .ok s ∧
      let row := (Row.empty.set .adGroupStatus (.string "Paused")).set .campaignKsName
        (.string "core")
      (JoinQuery.of .adGroup [] [] r).accepts row = true ∧
        (JoinQuery.of .adGroup [] [] s).accepts row = true ∧
        (JoinQuery.of .adGroup [] [] s).accepts (row.set .campaignKsName .null) = false := by
  obtain ⟨-, -, hOk⟩ := filters_conjunction .adGroup
    [⟨"status", .equals, ["paused", "active"]⟩, ⟨"campaign.ksName", .isIn, ["core"]⟩]
  obtain ⟨hConjoins, hOthers⟩ := hOk _ rfl
  obtain ⟨s, hs, hSame⟩ := hOthers [⟨"campaign.ksName", .isIn, ["core", "core"]⟩,
    ⟨"adGroup.status", .equals, ["active", "paused"]⟩, ⟨"colour", .equals, []⟩,
    ⟨"status", .equals, ["paused", "active"]⟩] (by decide) (by decide +kernel) (by decide +kernel)
  have hAll : Filter.AllAccept .adGroup
      [⟨"status", .equals, ["paused", "active"]⟩, ⟨"campaign.ksName", .isIn, ["core"]⟩]
      ((Row.empty.set .adGroupStatus (.string "Paused")).set .campaignKsName
        (.string "core")).text? := by
    decide +kernel
  have hRow := (hConjoins.accepts [] [] _).mpr hAll
  refine ⟨_, s, rfl, hs, hRow, (hSame [] [] [] [] _).trans hRow, (hSame [] [] [] [] _).trans ?_⟩
  exact hConjoins.refuses ⟨"campaign.ksName", .isIn, ["core"]⟩ (by decide) .campaignKsName
    (by decide) [] [] _ (.inl rfl)

end CampaignFetch

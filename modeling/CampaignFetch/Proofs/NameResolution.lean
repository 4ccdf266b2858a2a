import CampaignFetch.Proofs.FilterConjunction

/-!
# Names of fields and of filters

The fields of a request and the fields of its filters are names of the same form, but they take two
ways to a column: fields through `Selection.of` and `resolve`, filters through
`Filter.conditionFor?`. Both end at the same column, for every text.

* `projected` are the columns that a list of names projects; `projected_eq` gives them as a part of
  the columns of both kinds in catalog order.
* `projected_congr`: only the scoped names count, so that order, repetitions and a prefix of the
  primary kind change nothing.
* `Filter.constrains_iff`, `Filter.of_singleton_eq_none_iff`: what a single filter restricts.
* `names_resolve_alike` puts the two ways side by side.
-/

namespace CampaignFetch

/-! ## Distinct columns -/

theorem JoinQuery.distinct_of_nodup {columns : List Column} (h : columns.Nodup) :
    distinct columns = columns := by
  have hFold : ∀ (columns seen : List Column), (seen ++ columns).Nodup →
      columns.foldl (fun seen c => if seen.contains c then seen else seen ++ [c]) seen =
        seen ++ columns := by
    intro columns
    induction columns with
    | nil =>
      intro seen _
      exact (List.append_nil seen).symm
    | cons c columns ih =>
      intro seen hNodup
      have hNew : c ∉ seen := by
        intro hMem
        exact (List.nodup_append.mp hNodup).2.2 c hMem c List.mem_cons_self rfl
      have hAppend : seen ++ c :: columns = seen ++ [c] ++ columns := by simp
      rw [hAppend] at hNodup ⊢
      rw [List.foldl_cons, if_neg (by simpa using hNew)]
      exact ih (seen ++ [c]) hNodup
  exact hFold columns [] h

theorem Kind.nodup_columns (k : Kind) : (k.columns ++ k.other.columns).Nodup := by
  cases k <;> decide

theorem Kind.mem_columns (k : Kind) (c : Column) : c ∈ k.columns ++ k.other.columns := by
  cases k <;> cases c <;> decide

/-! ## Projections -/

/-- The columns that the names in a request project. -/
def projected (primary : Kind) (allWhenEmpty : Bool) (fields : List String) : List Column :=
  let selection := Selection.of primary allWhenEmpty fields
  (JoinQuery.of primary (resolve primary selection.primary)
    (resolve primary.other selection.related) ⟨none, none⟩).projection

section

variable {primary : Kind} {all : Bool} {fields others : List String} {c : Column}

theorem resolve_eq_filter {k : Kind} {names : List String} {P : Column → Prop} [DecidablePred P]
    (h : ∀ c, c ∈ resolve k names ↔ c.kind = k ∧ P c) :
    resolve k names = k.columns.filter fun c => P c := by
  refine List.filter_congr fun c hMem => Bool.eq_iff_iff.mpr ?_
  have hKind := mem_columns_iff.mp hMem
  have hResolved := h c
  rw [resolve, List.mem_filter] at hResolved
  rw [decide_eq_true_iff]
  constructor
  · intro hFound
    exact (hResolved.mp ⟨hMem, hFound⟩).2
  · intro hP
    exact (hResolved.mpr ⟨hKind, hP⟩).2

theorem projected_eq : projected primary all fields =
    (primary.columns ++ primary.other.columns).filter fun c => c.SelectedBy primary all fields := by
  have hOwn : resolve primary (Selection.of primary all fields).primary =
      primary.columns.filter fun c => c.SelectedBy primary all fields :=
    resolve_eq_filter fun _ => mem_selected_own_iff
  have hRelated : resolve primary.other (Selection.of primary all fields).related =
      primary.other.columns.filter fun c => c.SelectedBy primary all fields :=
    resolve_eq_filter fun _ => mem_selected_related_iff
  simp only [projected, JoinQuery.of, hOwn, hRelated, ← List.filter_append]
  exact JoinQuery.distinct_of_nodup (primary.nodup_columns.filter _)

theorem mem_projected : c ∈ projected primary all fields ↔ c.SelectedBy primary all fields := by
  rw [projected_eq, List.mem_filter, decide_eq_true_iff]
  exact and_iff_right (primary.mem_columns c)

theorem nodup_projected : (projected primary all fields).Nodup := by
  rw [projected_eq]
  exact primary.nodup_columns.filter _

/-- Which columns are selected depends on the scoped names only. -/
theorem Column.selectedBy_iff : c.SelectedBy primary all fields ↔
    (c = c.kind.identity ∨ (c.kind, c.field) ∈ fields.map (scope primary)) ∨
      c.kind = primary.other ∧ all = true ∧
        ∀ x ∈ fields.map (scope primary), x.1 ≠ primary.other := by
  simp only [Column.SelectedBy, Column.AskedBy, ← scope_eq_iff, ← scope_fst_eq_other_iff,
    List.mem_map, forall_exists_index, and_imp, forall_apply_eq_imp_iff₂, ne_eq]

theorem projected_congr
    (h : ∀ x, x ∈ others.map (scope primary) ↔ x ∈ fields.map (scope primary)) :
    projected primary all others = projected primary all fields := by
  have hSelected : ∀ c : Column,
      c.SelectedBy primary all others ↔ c.SelectedBy primary all fields := by
    intro c
    simp only [Column.selectedBy_iff, h]
  simp only [projected_eq, hSelected]

/-- A name that means no column adds nothing, unless it is the only one that keeps the related kind
from being selected as a whole. -/
theorem projected_unknown {before after : List String} {name : String}
    (hUnknown : ∀ c : Column, ¬ c.NamedBy primary name)
    (hOwn : ¬ primary.other.Prefixes name ∨ all = false) :
    projected primary all (before ++ name :: after) = projected primary all (before ++ after) := by
  have hSelected : ∀ c : Column, c.SelectedBy primary all (before ++ name :: after) ↔
      c.SelectedBy primary all (before ++ after) := by
    intro c
    have hAsked : c.AskedBy primary (before ++ name :: after) ↔
        c.AskedBy primary (before ++ after) := by
      simp only [Column.AskedBy, List.mem_append, List.mem_cons, or_and_right, exists_or,
        exists_eq_left, hUnknown c, false_or]
    rcases hOwn with hOwn | hAll
    · have hPrefixed : (∀ n ∈ before ++ name :: after, ¬ primary.other.Prefixes n) ↔
          ∀ n ∈ before ++ after, ¬ primary.other.Prefixes n := by
        simp only [List.mem_append, List.mem_cons, or_imp, forall_and, forall_eq, hOwn,
          not_false_eq_true, true_and]
      rw [Column.SelectedBy, Column.SelectedBy, hAsked, hPrefixed]
    · simp only [Column.SelectedBy, hAsked, hAll, Bool.false_eq_true, false_and, and_false]
  simp only [projected_eq, hSelected]

end

/-! ## Single names -/

section

variable {primary : Kind} {name : String} {c x : Column}

theorem Column.eq_identity_iff (primary : Kind) :
    c = c.kind.identity ↔ c = primary.identity ∨ c = primary.other.identity := by
  cases primary <;> cases c <;> decide

theorem mem_projected_single : c ∈ projected primary false [name] ↔
    (c = primary.identity ∨ c = primary.other.identity) ∨ c.NamedBy primary name := by
  simp only [mem_projected, Column.SelectedBy, Column.AskedBy, Column.eq_identity_iff primary,
    List.mem_singleton, exists_eq_left, Bool.false_eq_true, false_and, and_false, or_false]

/-- A name that is not scoped to the identity's field means no identity. -/
theorem Column.NamedBy.ne_identity (h : c.NamedBy primary name)
    (hName : (scope primary name).2 ≠ identityField) :
    ¬ (c = primary.identity ∨ c = primary.other.identity) := by
  rw [← Column.eq_identity_iff primary, ← Column.field_eq_identityField_iff]
  rw [scope_eq_iff.mpr h] at hName
  exact hName

theorem projected_perm_iff (hName : (scope primary name).2 ≠ identityField) :
    (projected primary false [name]).Perm [x, primary.identity, primary.other.identity] ↔
      x.NamedBy primary name := by
  constructor
  · intro hPerm
    have hNodup := hPerm.nodup_iff.mp nodup_projected
    have hNot : ¬ (x = primary.identity ∨ x = primary.other.identity) := by
      simpa using (List.nodup_cons.mp hNodup).1
    have hMem := hPerm.mem_iff.mpr List.mem_cons_self
    exact (mem_projected_single.mp hMem).resolve_left hNot
  · intro hNamed
    have hNot := hNamed.ne_identity hName
    -- neither list repeats a column, so equal members are enough
    have hNodup : [x, primary.identity, primary.other.identity].Nodup := by
      refine List.nodup_cons.mpr ⟨by simpa using hNot, ?_⟩
      cases primary <;> decide
    refine (List.perm_ext_iff_of_nodup nodup_projected hNodup).mpr fun c => ?_
    simp only [mem_projected_single, List.mem_cons, List.not_mem_nil, or_false]
    constructor
    · rintro (hIdentity | hAlso)
      · exact Or.inr hIdentity
      · exact Or.inl (hAlso.unique hNamed)
    · rintro (rfl | hIdentity)
      · exact Or.inr hNamed
      · exact Or.inl hIdentity

theorem projected_nil (primary : Kind) :
    projected primary false [] = [primary.identity, primary.other.identity] := by
  cases primary <;> decide

theorem projected_eq_identities_iff (hName : (scope primary name).2 ≠ identityField) :
    projected primary false [name] = [primary.identity, primary.other.identity] ↔
      ∀ c : Column, ¬ c.NamedBy primary name := by
  constructor
  · intro hEq c hNamed
    have hMem : c ∈ projected primary false [name] := mem_projected_single.mpr (.inr hNamed)
    rw [hEq] at hMem
    exact hNamed.ne_identity hName (by simpa using hMem)
  · intro hUnknown
    have hSame : projected primary false ([] ++ name :: []) = projected primary false ([] ++ []) :=
      projected_unknown hUnknown (.inr rfl)
    exact hSame.trans (projected_nil primary)

end

/-! ## Single filters -/

/-- The filter alone sets a condition on the column, in the half of the column's table and nowhere
else. -/
def Filter.Constrains (primary : Kind) (f : Filter) (x : Column) : Prop :=
  ∃ r condition, Restriction.of primary [f] = .ok r ∧ r.on primary x.kind = some condition ∧
    (∀ y, y ∈ condition.columns ↔ y = x) ∧ r.on primary x.kind.other = none

theorem Condition.allOf_filterMap_singleton {α : Type} (g : α → Option Condition) (a : α) :
    allOf ([a].filterMap g) = g a := by
  rw [List.filterMap_cons]
  cases g a <;> rfl

namespace Filter

variable {primary : Kind} {f : Filter} {x : Column}

theorem of_singleton (hSupported : f.Supported) : Restriction.of primary [f] =
    .ok ⟨f.conditionFor? primary primary, f.conditionFor? primary primary.other⟩ := by
  rw [Restriction.of_eq_ok (by simpa using hSupported)]
  simp only [Restriction.ofSupported, Condition.allOf_filterMap_singleton]

theorem on_halves (k : Kind) :
    Restriction.on ⟨f.conditionFor? primary primary, f.conditionFor? primary primary.other⟩
      primary k = f.conditionFor? primary k := by
  unfold Restriction.on
  split
  · rename_i hPrimary
    rw [hPrimary]
  · rename_i hRelated
    rw [Kind.eq_other_of_ne hRelated]

theorem conditionFor?_eq_none_iff (hSupported : f.Supported) {k : Kind} :
    f.conditionFor? primary k = none ↔ ∀ c : Column, c.kind = k → ¬ c.NamedBy primary f.field := by
  rw [← Option.not_isSome_iff_eq_none, isSome_conditionFor?_iff hSupported]
  simp only [not_exists, not_and]

theorem constrains_iff (hSupported : f.Supported) :
    f.Constrains primary x ↔ x.NamedBy primary f.field := by
  constructor
  · rintro ⟨r, condition, hr, hHalf, hColumns, -⟩
    obtain rfl := Except.ok.inj ((of_singleton hSupported).symm.trans hr)
    rw [on_halves] at hHalf
    obtain ⟨c, -, hNamed, hCondition⟩ := conditionFor?_eq_some_iff.mp hHalf
    have hSame : x = c := (mem_columns_condition? hCondition).mp ((hColumns x).mpr rfl)
    exact hSame ▸ hNamed
  · intro hNamed
    obtain ⟨condition, hCondition, -⟩ := holds_condition? hSupported x Row.empty
    refine ⟨_, condition, of_singleton hSupported, ?_, fun y => mem_columns_condition? hCondition,
      ?_⟩
    · rw [on_halves]
      exact conditionFor?_eq_some_iff.mpr ⟨x, rfl, hNamed, hCondition⟩
    · rw [on_halves, conditionFor?_eq_none_iff hSupported]
      intro c hKind hAlso
      rw [hAlso.unique hNamed] at hKind
      exact Kind.other_ne _ hKind.symm

theorem of_singleton_eq_none_iff (hSupported : f.Supported) :
    Restriction.of primary [f] = .ok ⟨none, none⟩ ↔ ∀ c : Column, ¬ c.NamedBy primary f.field := by
  rw [of_singleton hSupported, Except.ok.injEq, Restriction.mk.injEq,
    conditionFor?_eq_none_iff hSupported, conditionFor?_eq_none_iff hSupported]
  constructor
  · rintro ⟨hOwnNot, hRelatedNot⟩ c
    by_cases hKind : c.kind = primary
    · exact hOwnNot c hKind
    · exact hRelatedNot c (Kind.eq_other_of_ne hKind)
  · intro hNot
    exact ⟨fun c _ => hNot c, fun c _ => hNot c⟩

end Filter

/-! ## The two ways -/

/-- What holds of the columns that a list of names projects. -/
structure Projects (primary : Kind) (all : Bool) (fields : List String)
    (projection : List Column) : Prop where
  once : projection.Nodup
  /-- The primary columns come before the related ones, both in the order of the catalog. -/
  ordered : projection = primary.columns.filter (· ∈ projection) ++
    primary.other.columns.filter (· ∈ projection)
  identities : ∀ k : Kind, k.identity ∈ projection
  selected : ∀ c : Column, c ∈ projection ↔ c.SelectedBy primary all fields

theorem projects_projected (primary : Kind) (all : Bool) (fields : List String) :
    Projects primary all fields (projected primary all fields) where
  once := nodup_projected
  ordered := by
    rw [← List.filter_append]
    simp only [mem_projected]
    exact projected_eq
  identities k := mem_projected.mpr (.inl (.inl (by rw [k.identity_kind])))
  selected _ := mem_projected

theorem scope_field (primary : Kind) (c : Column) :
    scope primary (primary.scopeWord ++ "." ++ c.field) = scope primary c.field := by
  rw [scope_prefixed, scope_bare fun k => c.field_not_prefixed k]

/-- The names of a fetch project every column once, in catalog order, whatever their order, their
repetitions, the prefix of the primary kind and the names that mean no column. A name projects a
column next to the identities exactly when a filter with this name restricts that column, and
nothing but the identities exactly when such a filter restricts nothing. -/
theorem names_resolve_alike (primary : Kind) :
    (∀ (s : FetchSettings) (r : Request), r.Accepted → ∃ plan, s.plan primary r = .ok plan ∧
      plan.query.projection =
        projected primary (s.direction primary).allFieldsWhenEmpty r.fields) ∧
    (∀ (all : Bool) (fields : List String),
      Projects primary all fields (projected primary all fields) ∧
      (∀ others : List String, (∀ name, name ∈ others ↔ name ∈ fields) →
        projected primary all others = projected primary all fields) ∧
      (∀ (before after : List String) (c : Column), fields = before ++ c.field :: after →
        projected primary all (before ++ (primary.scopeWord ++ "." ++ c.field) :: after) =
          projected primary all fields) ∧
      ∀ (before after : List String) (name : String), fields = before ++ after →
        (∀ c : Column, ¬ c.NamedBy primary name) →
        ¬ primary.other.Prefixes name ∨ all = false →
        projected primary all (before ++ name :: after) = projected primary all fields) ∧
    ∀ f : Filter, f.Supported → (scope primary f.field).2 ≠ identityField →
      (∀ x : Column, f.Constrains primary x ↔
        (projected primary false [f.field]).Perm
          [x, primary.identity, primary.other.identity]) ∧
      (Restriction.of primary [f] = .ok ⟨none, none⟩ ↔
        projected primary false [f.field] = [primary.identity, primary.other.identity]) := by
  refine ⟨fun s r hAccepted => ?_, fun all fields => ?_, fun f hSupported hName => ?_⟩
  · exact ⟨_, FetchSettings.plan_eq hAccepted, rfl⟩
  · refine ⟨projects_projected primary all fields, ?_, ?_, ?_⟩
    · intro others hSame
      refine projected_congr fun x => ?_
      simp only [List.mem_map, hSame]
    · rintro before after c rfl
      refine projected_congr fun x => ?_
      simp only [List.map_append, List.map_cons, scope_field]
    · rintro before after name rfl hUnknown hOwn
      exact projected_unknown hUnknown hOwn
  · refine ⟨fun x => ?_, ?_⟩
    · rw [Filter.constrains_iff hSupported, projected_perm_iff hName]
    · rw [Filter.of_singleton_eq_none_iff hSupported, projected_eq_identities_iff hName]

/-- A prefix of the primary kind, a repetition and a name with nothing behind its point change no
projection; a name with two prefixes means no column. -/
theorem names_resolve_alike_prefixed :
    let f : Filter := ⟨"adGroup.status", .isIn, ["ACTIVE"]⟩
    let g : Filter := ⟨"adGroup.adGroup.name", .equals, []⟩
    projected .campaign false ["adGroup.status", "campaign.", "campaign.ksName", "adGroup.status"] =
        [.campaignId, .campaignKsName, .adGroupId, .adGroupStatus] ∧
      f.Supported ∧ (scope .campaign f.field).2 ≠ identityField ∧
      f.Constrains .campaign .adGroupStatus ∧
      g.Supported ∧ (scope .campaign g.field).2 ≠ identityField ∧
      Restriction.of .campaign [g] = .ok ⟨none, none⟩ := by
  intro f g
  obtain ⟨-, hFields, hFilter⟩ := names_resolve_alike .campaign
  have hf : f.Supported ∧ (scope .campaign f.field).2 ≠ identityField := by decide +kernel
  have hg : g.Supported ∧ (scope .campaign g.field).2 ≠ identityField := by decide +kernel
  have hBlank : ∀ c : Column, ¬ c.NamedBy .campaign "campaign." := by
    intro c
    cases c <;> decide +kernel
  obtain ⟨-, -, -, hUnknown⟩ :=
    hFields false ["adGroup.status", "campaign.ksName", "adGroup.status"]
  obtain ⟨-, -, hPrefix, -⟩ := hFields false ["adGroup.status", "ksName", "adGroup.status"]
  obtain ⟨-, hSame, -, -⟩ := hFields false ["ksName", "adGroup.status"]
  obtain ⟨hConstrains, -⟩ := hFilter f hf.1 hf.2
  obtain ⟨-, hNone⟩ := hFilter g hg.1 hg.2
  have hWritten : Kind.campaign.scopeWord ++ "." ++ Column.campaignKsName.field =
      "campaign.ksName" := by decide +kernel
  have hPrefix := hPrefix ["adGroup.status"] ["adGroup.status"] .campaignKsName rfl
  rw [hWritten] at hPrefix
  refine ⟨?_, hf.1, hf.2, ?_, hg.1, hg.2, ?_⟩
  · calc
      projected .campaign false ["adGroup.status", "campaign.", "campaign.ksName", "adGroup.status"]
      _ = projected .campaign false ["adGroup.status", "campaign.ksName", "adGroup.status"] :=
        hUnknown ["adGroup.status"] _ "campaign." rfl hBlank (.inr rfl)
      _ = projected .campaign false ["adGroup.status", "ksName", "adGroup.status"] := hPrefix
      _ = projected .campaign false ["ksName", "adGroup.status"] := hSame _ (by simp [or_comm])
      _ = [.campaignId, .campaignKsName, .adGroupId, .adGroupStatus] := by decide +kernel
  · exact (hConstrains _).mpr (by decide +kernel)
  · exact hNone.mpr (by decide +kernel)

end CampaignFetch

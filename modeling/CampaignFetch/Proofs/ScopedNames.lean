import CampaignFetch.Fetch.Selection

/-!
# Which column a name means

A name means a column in one of two ways: the word of the column's kind, a point and the column's
field, or the field alone when the column's kind is the primary one. `Column.NamedBy` states this
without the way in which names are taken apart.

* `scope_eq_iff`: taking a name apart gives a column's kind and field exactly when the name means
  that column.
* `mem_selected_own_iff`, `mem_selected_related_iff`: the columns that a request selects are the
  identity and those that its names mean. The columns of the related kind are selected all together
  when the settings say so and no name begins with its word.
-/

namespace CampaignFetch

/-- The name means the column, seen from the primary kind. -/
def Column.NamedBy (primary : Kind) (c : Column) (name : String) : Prop :=
  name = c.kind.scopeWord ++ "." ++ c.field ∨ c.kind = primary ∧ name = c.field

instance (primary : Kind) (c : Column) (name : String) : Decidable (c.NamedBy primary name) := by
  unfold Column.NamedBy
  infer_instance

/-- The name begins with the word of the kind and a point. -/
def Kind.Prefixes (k : Kind) (name : String) : Prop := ∃ rest, name = k.scopeWord ++ "." ++ rest

/-! ## Prefixes -/

theorem Kind.unscoped?_eq_some_iff {k : Kind} {name rest : String} :
    k.unscoped? name = some rest ↔ name = k.scopeWord ++ "." ++ rest := by
  unfold Kind.unscoped?
  have hLead : (k.scopeWord ++ "." ++ rest).toList =
      (k.scopeWord.toList ++ ['.']) ++ rest.toList := by
    simp [String.toList_append]
  constructor
  · intro h
    dsimp only at h
    split at h
    · rename_i hPrefix
      obtain ⟨tail, hTail⟩ := List.isPrefixOf_iff_prefix.mp hPrefix
      cases h
      apply String.toList_inj.mp
      rw [hLead, ← hTail]
      simp
    · cases h
  · rintro rfl
    rw [hLead, if_pos (by simp)]
    simp

theorem Kind.prefixes_iff {k : Kind} {name : String} :
    k.Prefixes name ↔ (k.unscoped? name).isSome := by
  simp only [Kind.Prefixes, Option.isSome_iff_exists, Kind.unscoped?_eq_some_iff]

instance (k : Kind) (name : String) : Decidable (k.Prefixes name) :=
  decidable_of_iff _ Kind.prefixes_iff.symm

/-- No name begins with the words of both kinds. -/
theorem Kind.prefixes_unique {k l : Kind} {name : String} (hk : k.Prefixes name)
    (hl : l.Prefixes name) : k = l := by
  obtain ⟨r, rfl⟩ := hk
  obtain ⟨s, hs⟩ := hl
  have hHead := congrArg (fun t : String => t.toList.head?) hs
  cases k <;> cases l <;> first | rfl | (simp [Kind.scopeWord, String.toList_append] at hHead)

theorem Kind.eq_other_of_ne {k l : Kind} (h : k ≠ l) : k = l.other := by
  cases k <;> cases l <;> first | rfl | exact absurd rfl h

theorem Column.field_not_prefixed (c : Column) (k : Kind) : ¬ k.Prefixes c.field := by
  rw [Kind.prefixes_iff]
  cases c <;> cases k <;> decide

/-! ## Taking names apart -/

theorem Column.field_inj {c d : Column} (hKind : c.kind = d.kind) (hField : c.field = d.field) :
    c = d := by
  cases c <;> cases d <;> first | rfl | (revert hKind hField; decide)

theorem Kind.column?_eq_some_iff {k : Kind} {name : String} {c : Column} :
    k.column? name = some c ↔ c.kind = k ∧ c.field = name := by
  unfold Kind.column?
  constructor
  · intro h
    exact ⟨mem_columns_iff.mp (List.mem_of_find?_eq_some h), by simpa using List.find?_some h⟩
  · rintro ⟨rfl, rfl⟩
    cases hFound : c.kind.columns.find? fun d => d.field = c.field with
    | none =>
      have := List.find?_eq_none.mp hFound c (mem_columns_iff.mpr rfl)
      simp at this
    | some d =>
      have hKind := mem_columns_iff.mp (List.mem_of_find?_eq_some hFound)
      have hField : d.field = c.field := by simpa using List.find?_some hFound
      rw [Column.field_inj hKind hField]

theorem scope_prefixed (primary k : Kind) (rest : String) :
    scope primary (k.scopeWord ++ "." ++ rest) = (k, rest) := by
  have hSelf := Kind.unscoped?_eq_some_iff.mpr (rfl : k.scopeWord ++ "." ++ rest = _)
  unfold scope
  by_cases hk : k = primary.other
  · rw [← hk, hSelf]
  · have hPrimary : k = primary := by simpa using Kind.eq_other_of_ne hk
    cases hOther : primary.other.unscoped? (k.scopeWord ++ "." ++ rest) with
    | some other =>
      have hName := Kind.unscoped?_eq_some_iff.mp hOther
      exact absurd (Kind.prefixes_unique ⟨rest, rfl⟩ ⟨other, hName⟩) hk
    | none =>
      rw [← hPrimary, hSelf]
      rfl

theorem scope_bare {primary : Kind} {name : String} (h : ∀ k : Kind, ¬ k.Prefixes name) :
    scope primary name = (primary, name) := by
  have hNone : ∀ k : Kind, k.unscoped? name = none := fun k => by
    simpa [Kind.prefixes_iff] using h k
  simp [scope, hNone]

theorem scope_eq_iff {primary : Kind} {name : String} {c : Column} :
    scope primary name = (c.kind, c.field) ↔ c.NamedBy primary name := by
  by_cases hPrefixed : ∃ k : Kind, k.Prefixes name
  · obtain ⟨k, rest, rfl⟩ := hPrefixed
    rw [scope_prefixed, Prod.mk.injEq]
    constructor
    · rintro ⟨rfl, rfl⟩
      exact Or.inl rfl
    · rintro (hScoped | ⟨-, hBare⟩)
      · have hKind := Kind.prefixes_unique ⟨rest, rfl⟩ ⟨c.field, hScoped⟩
        have hSelf := scope_prefixed k k rest
        rw [hScoped, scope_prefixed] at hSelf
        exact ⟨hKind, (Prod.mk.inj hSelf).2.symm⟩
      · exact absurd ⟨rest, hBare.symm⟩ (c.field_not_prefixed k)
  · have hBare : ∀ k : Kind, ¬ k.Prefixes name := fun k hk => hPrefixed ⟨k, hk⟩
    rw [scope_bare hBare, Prod.mk.injEq]
    constructor
    · rintro ⟨hKind, hField⟩
      exact Or.inr ⟨hKind.symm, hField⟩
    · rintro (hScoped | ⟨hKind, hField⟩)
      · exact absurd ⟨c.field, hScoped⟩ (hBare c.kind)
      · exact ⟨hKind.symm, hField⟩

theorem scope_fst_eq_other_iff {primary : Kind} {name : String} :
    (scope primary name).1 = primary.other ↔ primary.other.Prefixes name := by
  by_cases hPrefixed : ∃ k : Kind, k.Prefixes name
  · obtain ⟨k, rest, rfl⟩ := hPrefixed
    rw [scope_prefixed]
    constructor
    · rintro rfl
      exact ⟨rest, rfl⟩
    · exact fun h => Kind.prefixes_unique ⟨rest, rfl⟩ h
  · rw [scope_bare fun k hk => hPrefixed ⟨k, hk⟩]
    exact ⟨fun h => absurd h.symm (Kind.other_ne primary), fun h => absurd ⟨_, h⟩ hPrefixed⟩

/-! ## Selected columns -/

/-- The names ask for the column: it is the identity of its kind or one of them means it. -/
def Column.AskedBy (primary : Kind) (c : Column) (names : List String) : Prop :=
  c = c.kind.identity ∨ ∃ name ∈ names, c.NamedBy primary name

instance (primary : Kind) (c : Column) (names : List String) :
    Decidable (c.AskedBy primary names) := by
  unfold Column.AskedBy
  infer_instance

/-- The column is selected by the names. With `allWhenEmpty` set, names of which none begins with
the related kind's word select that whole kind. -/
def Column.SelectedBy (primary : Kind) (allWhenEmpty : Bool) (c : Column) (names : List String) :
    Prop :=
  c.AskedBy primary names ∨
    c.kind = primary.other ∧ allWhenEmpty = true ∧ ∀ name ∈ names, ¬ primary.other.Prefixes name

instance (primary : Kind) (allWhenEmpty : Bool) (c : Column) (names : List String) :
    Decidable (c.SelectedBy primary allWhenEmpty names) := by
  unfold Column.SelectedBy
  infer_instance

theorem mem_pushNew {names : List String} {name x : String} :
    x ∈ pushNew names name ↔ x ∈ names ∨ x = name := by
  unfold pushNew
  split
  · rename_i hMem
    have hMem : name ∈ names := by simpa using hMem
    exact ⟨Or.inl, fun h => h.elim id fun h => h ▸ hMem⟩
  · simp

namespace Selection

theorem mem_namesOf {primary kind : Kind} {fields : List String} {x : String} :
    x ∈ namesOf primary kind fields ↔ ∃ field ∈ fields, scope primary field = (kind, x) := by
  have hStep : ∀ (fields seen : List String),
      x ∈ fields.foldl (addName primary kind) seen ↔
        x ∈ seen ∨ ∃ field ∈ fields, scope primary field = (kind, x) := by
    intro fields
    induction fields with
    | nil => simp
    | cons field fields ih =>
      intro seen
      rw [List.foldl_cons, ih, addName]
      cases hScope : scope primary field with
      | mk k name =>
        by_cases hKind : k = kind
        · simp [hScope, hKind, mem_pushNew, or_assoc, eq_comm]
        · simp [hScope, hKind]
  simpa [namesOf] using hStep fields []

theorem namesOf_other_eq_nil_iff {primary : Kind} {fields : List String} :
    namesOf primary primary.other fields = [] ↔
      ∀ field ∈ fields, ¬ primary.other.Prefixes field := by
  rw [List.eq_nil_iff_forall_not_mem]
  simp only [mem_namesOf, ← scope_fst_eq_other_iff]
  constructor
  · intro h field hField hKind
    exact h (scope primary field).2 ⟨field, hField, Prod.ext hKind rfl⟩
  · rintro h x ⟨field, hField, hScope⟩
    exact h field hField (congrArg Prod.fst hScope)

end Selection

theorem Column.field_eq_identityField_iff {c : Column} :
    c.field = identityField ↔ c = c.kind.identity := by
  cases c <;> decide

theorem mem_resolve_iff {k : Kind} {names : List String} {c : Column} :
    c ∈ resolve k names ↔ c.kind = k ∧ (c = c.kind.identity ∨ c.field ∈ names) := by
  simp only [resolve, List.mem_filter, mem_columns_iff, Bool.or_eq_true, decide_eq_true_eq,
    List.contains_iff_mem, Column.field_eq_identityField_iff]

theorem Column.askedBy_iff {primary : Kind} {fields : List String} {c : Column} :
    c.AskedBy primary fields ↔
      c = c.kind.identity ∨ c.field ∈ Selection.namesOf primary c.kind fields := by
  simp only [Column.AskedBy, Selection.mem_namesOf, scope_eq_iff]

/-- The columns of the primary kind that a request selects. -/
theorem mem_selected_own_iff {primary : Kind} {all : Bool} {fields : List String} {c : Column} :
    c ∈ resolve primary (Selection.of primary all fields).primary ↔
      c.kind = primary ∧ c.SelectedBy primary all fields := by
  rw [mem_resolve_iff]
  apply and_congr_right
  rintro rfl
  simp only [Selection.of, mem_pushNew, Column.field_eq_identityField_iff, Column.SelectedBy,
    Column.askedBy_iff, (Kind.other_ne c.kind).symm, false_and, or_false]
  exact ⟨fun h => h.elim Or.inl Or.symm, fun h => h.elim Or.inl (Or.inr ∘ Or.inl)⟩

/-- The columns of the related kind that a request selects. -/
theorem mem_selected_related_iff {primary : Kind} {all : Bool} {fields : List String}
    {c : Column} :
    c ∈ resolve primary.other (Selection.of primary all fields).related ↔
      c.kind = primary.other ∧ c.SelectedBy primary all fields := by
  rw [mem_resolve_iff]
  apply and_congr_right
  intro hKind
  have hField : c.field ∈ primary.other.fieldNames :=
    List.mem_map.mpr ⟨c, mem_columns_iff.mpr hKind, rfl⟩
  simp only [Selection.of, mem_pushNew, Column.field_eq_identityField_iff, Column.SelectedBy,
    Column.askedBy_iff, hKind, true_and, ← Selection.namesOf_other_eq_nil_iff]
  cases hNames : Selection.namesOf primary primary.other fields with
  | nil => cases all <;> simp [hField]
  | cons name names =>
    simp only [List.isEmpty_cons, Bool.false_and, Bool.false_eq_true, if_false, reduceCtorEq,
      and_false, or_false]
    exact ⟨fun h => h.elim Or.inl Or.symm, fun h => h.elim Or.inl (Or.inr ∘ Or.inl)⟩

end CampaignFetch

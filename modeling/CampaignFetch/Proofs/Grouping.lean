import CampaignFetch.Fetch.Assembly
import Mathlib.Data.List.Induction
import Mathlib.Data.List.Nodup

/-!
# Assembly as grouping by identity

`rowsOf` are the rows with one primary identity and `Group.ofRows` is the group that they make.
Adding one row after the other to the groups keeps `Represents`: the identities ascend, and the
group of each identity is made of its rows so far.

* `represents_foldl`: the groups of a list of rows represent it.
* `assemble_eq`: assembly gives the groups of any ascending list of exactly the identities that
  occur, cut to the limit.
-/

namespace CampaignFetch

/-! ## Adding to groups -/

section

variable {P R : Type}

/-- The identities of the groups ascend. -/
def Groups.Ascending (groups : Groups P R) : Prop := groups.Pairwise fun a b => a.1 < b.1

namespace Groups

theorem fst_mem_add {groups : Groups P R} {id : Int} {primary : P} {related : List R}
    {entry : Int × Group P R} (h : entry ∈ groups.add id primary related) :
    entry.1 = id ∨ ∃ old ∈ groups, old.1 = entry.1 := by
  induction groups with
  | nil =>
    rw [List.mem_singleton.mp h]
    exact Or.inl rfl
  | cons head rest ih =>
    obtain ⟨other, group⟩ := head
    unfold add at h
    split at h
    · rcases List.mem_cons.mp h with rfl | hOld
      · exact Or.inl rfl
      · exact Or.inr ⟨entry, hOld, rfl⟩
    · split at h
      · rename_i hSame
        rcases List.mem_cons.mp h with rfl | hOld
        · exact Or.inl hSame.symm
        · exact Or.inr ⟨entry, List.mem_cons_of_mem _ hOld, rfl⟩
      · rcases List.mem_cons.mp h with rfl | hRest
        · exact Or.inr ⟨_, List.mem_cons_self, rfl⟩
        · rcases ih hRest with hNew | ⟨old, hOld, hEq⟩
          · exact Or.inl hNew
          · exact Or.inr ⟨old, List.mem_cons_of_mem _ hOld, hEq⟩

theorem ascending_add {groups : Groups P R} (h : groups.Ascending) (id : Int) (primary : P)
    (related : List R) : (groups.add id primary related).Ascending := by
  induction groups with
  | nil => exact List.pairwise_singleton _ _
  | cons head rest ih =>
    obtain ⟨other, group⟩ := head
    obtain ⟨hHead, hRest⟩ := List.pairwise_cons.mp h
    unfold add
    split
    · rename_i hLess
      refine List.pairwise_cons.mpr ⟨?_, h⟩
      intro entry hEntry
      rcases List.mem_cons.mp hEntry with rfl | hTail
      · exact hLess
      · exact Int.lt_trans hLess (hHead entry hTail)
    · split
      · exact List.pairwise_cons.mpr ⟨hHead, hRest⟩
      · refine List.pairwise_cons.mpr ⟨?_, ih hRest⟩
        intro entry hEntry
        rcases fst_mem_add hEntry with hNew | ⟨old, hOld, hEq⟩
        · dsimp only
          omega
        · exact hEq ▸ hHead old hOld

/-- The members after adding: other identities keep their groups, the group of the identity is
continued or begun. -/
theorem mem_add_iff {groups : Groups P R} (h : groups.Ascending) {id i : Int} {primary : P}
    {related : List R} {g : Group P R} :
    (i, g) ∈ groups.add id primary related ↔
      (i ≠ id ∧ (i, g) ∈ groups) ∨
      (i = id ∧ ((∃ old, (id, old) ∈ groups ∧ g = ⟨old.primary, old.related ++ related⟩) ∨
        ((∀ old, (id, old) ∉ groups) ∧ g = ⟨primary, related⟩))) := by
  induction groups with
  | nil =>
    simp only [add, List.mem_singleton, Prod.mk.injEq, List.not_mem_nil, and_false, false_and,
      exists_false, not_false_eq_true, implies_true, true_and, false_or]
  | cons head rest ih =>
    obtain ⟨other, group⟩ := head
    obtain ⟨hHead, hRest⟩ := List.pairwise_cons.mp h
    have hAbove : ∀ j old, (j, old) ∈ rest → other < j := fun j old hOld => hHead _ hOld
    unfold add
    split
    · rename_i hLess
      -- the identity is below all others, so it has no group yet
      have hAbsent : ∀ old, (id, old) ∉ (other, group) :: rest := by
        intro old hOld
        rcases List.mem_cons.mp hOld with hEq | hTail
        · cases hEq
          omega
        · have := hAbove id old hTail
          omega
      by_cases hi : i = id
      · subst hi
        simp [hAbsent, List.mem_cons]
      · simp [hi, List.mem_cons]
    · split
      · rename_i hSame
        subst hSame
        -- the group at the front is the only one of the identity
        have hAbsent : ∀ old, (id, old) ∉ rest := fun old hOld => by
          have := hAbove id old hOld
          omega
        by_cases hi : i = id
        · subst hi
          simp [hAbsent, List.mem_cons]
        · simp [hi, List.mem_cons]
      · rename_i hLess hSame
        -- the group at the front is another one and stays as it is
        rw [List.mem_cons, ih hRest]
        by_cases hi : i = id
        · subst hi
          simp [List.mem_cons, hSame]
        · simp [hi, List.mem_cons]

end Groups

end

/-! ## The rows of an identity -/

section

variable {P R : Type} [Entity P] [Entity R]

/-- The rows with a primary identity, in their order. -/
def rowsOf (P : Type) [Entity P] (id : Int) (rows : List Row) : List Row :=
  rows.filter fun row => primaryId? P row = some id

/-- The group that rows with one identity make: the primary entity comes from the first of them. -/
def Group.ofRows (own related : List Column) (keep : Bool) (rows : List Row) : Group P R where
  primary := (rows.headD Row.empty).build own
  related := rows.flatMap (relatedOf R related keep)

theorem Group.ofRows_concat {own related : List Column} {keep : Bool} {rows : List Row}
    (h : rows ≠ []) (row : Row) :
    (Group.ofRows own related keep (rows ++ [row]) : Group P R) =
      ⟨(Group.ofRows own related keep rows : Group P R).primary,
        (Group.ofRows own related keep rows : Group P R).related ++
          relatedOf R related keep row⟩ := by
  cases rows with
  | nil => exact absurd rfl h
  | cons first rest => simp [Group.ofRows]

theorem rowsOf_concat (id : Int) (rows : List Row) (row : Row) :
    rowsOf P id (rows ++ [row]) =
      rowsOf P id rows ++ if primaryId? P row = some id then [row] else [] := by
  simp [rowsOf, List.filter_cons]

/-- The groups are those of the rows: one for each identity that occurs, ascending. -/
structure Represents (own related : List Column) (keep : Bool) (groups : Groups P R)
    (rows : List Row) : Prop where
  ascending : groups.Ascending
  mem_iff : ∀ id g, (id, g) ∈ groups ↔
    rowsOf P id rows ≠ [] ∧ g = .ofRows own related keep (rowsOf P id rows)

theorem represents_addRow {own related : List Column} {keep : Bool} {groups : Groups P R}
    {rows : List Row} (h : Represents own related keep groups rows) (row : Row) :
    Represents own related keep (groups.addRow own related keep row) (rows ++ [row]) := by
  unfold Groups.addRow
  cases hId : primaryId? P row with
  | none =>
    refine ⟨h.ascending, fun id g => ?_⟩
    rw [h.mem_iff, rowsOf_concat, hId]
    simp
  | some new =>
    refine ⟨Groups.ascending_add h.ascending _ _ _, fun id g => ?_⟩
    rw [Groups.mem_add_iff h.ascending, rowsOf_concat, hId]
    by_cases hNew : id = new
    · subst hNew
      simp only [ne_eq, not_true_eq_false, false_and, false_or, true_and, if_true, h.mem_iff]
      by_cases hRows : rowsOf P id rows = []
      · simp [hRows, Group.ofRows]
      · simp [hRows, Group.ofRows_concat]
    · have hOther : ¬ some new = some id := fun hEq => hNew (Option.some.inj hEq).symm
      simp [hNew, hOther, h.mem_iff]

/-- The groups of a list of rows represent it. -/
theorem represents_foldl (own related : List Column) (keep : Bool) (rows : List Row) :
    Represents own related keep
      (rows.foldl (Groups.addRow own related keep) ([] : Groups P R)) rows := by
  -- from the end, because the first row of an identity decides its primary entity
  induction rows using List.reverseRecOn with
  | nil => exact ⟨List.Pairwise.nil, by simp [rowsOf]⟩
  | append_singleton rows row ih =>
    rw [List.foldl_append]
    exact represents_addRow ih row

theorem Represents.eq_map {own related : List Column} {keep : Bool} {groups : Groups P R}
    {rows : List Row} (h : Represents own related keep groups rows) {ids : List Int}
    (hAscending : ids.Pairwise (· < ·)) (hIds : ∀ id, id ∈ ids ↔ rowsOf P id rows ≠ []) :
    groups = ids.map fun id => (id, .ofRows own related keep (rowsOf P id rows)) := by
  have hRight : (ids.map fun id =>
      (id, (.ofRows own related keep (rowsOf P id rows) : Group P R))).Pairwise
      fun a b => a.1 < b.1 := List.pairwise_map.mpr hAscending
  have hNodup : ∀ {l : Groups P R}, l.Pairwise (fun a b => a.1 < b.1) → l.Nodup := by
    intro l hl
    refine hl.imp ?_
    rintro a _ hLess rfl
    exact Int.lt_irrefl _ hLess
  refine List.Perm.eq_of_pairwise ?_ h.ascending hRight
    ((List.perm_ext_iff_of_nodup (hNodup h.ascending) (hNodup hRight)).mpr ?_)
  · intro a b _ _ hab hba
    exact absurd (Int.lt_trans hab hba) (Int.lt_irrefl _)
  · rintro ⟨id, g⟩
    rw [h.mem_iff]
    simp only [List.mem_map, Prod.mk.injEq, hIds]
    constructor
    · rintro ⟨hRows, rfl⟩
      exact ⟨id, hRows, rfl, rfl⟩
    · rintro ⟨i, hRows, rfl, rfl⟩
      exact ⟨hRows, rfl⟩

/-- Assembly gives the groups of the identities that occur, ascending, cut to the limit. -/
theorem assemble_eq {own related : List Column} {keep : Bool} {rows : List Row} {ids : List Int}
    (hAscending : ids.Pairwise (· < ·)) (hIds : ∀ id, id ∈ ids ↔ rowsOf P id rows ≠ []) (n : Nat) :
    (assemble own related (some n) keep rows : List (Group P R)) =
      (ids.take n).map fun id => .ofRows own related keep (rowsOf P id rows) := by
  have hGroups := (represents_foldl own related keep rows).eq_map (P := P) (R := R) hAscending hIds
  simp only [assemble, hGroups, List.map_map, List.map_take]
  rfl

end

end CampaignFetch

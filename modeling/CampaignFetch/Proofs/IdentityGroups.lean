import CampaignFetch.Proofs.Grouping
import Mathlib.Data.List.Dedup
import Mathlib.Data.List.Forall2

/-!
# Assembly without its fold

Rows are assembled by adding one after the other to the groups so far. The result can be said
without this order of work: there is one group for each identity that some row has, in ascending
order of the identities, and what the group holds depends on the rows of its identity alone.

* `identities` are the identities of some rows, each once, ascending.
* `Group.Gathers` says what the group of an identity is: the primary entity is built from the first
  row that has the identity, the related ones from those of its rows that have a related identity.
* `assemble_limited` gives the groups for any limit.
* `assemble_gathers` is the description as a whole, with what follows from it: a smaller limit gives
  a front part of the groups, and only the order of rows within one identity matters.
-/

namespace CampaignFetch

section

variable {P R : Type} [Entity P] [Entity R]

/-! ## Identities -/

/-- The identities that some of the rows have, each once, ascending. -/
def identities (P : Type) [Entity P] (rows : List Row) : List Int :=
  (rows.filterMap (primaryId? P)).dedup.mergeSort fun a b => decide (a ≤ b)

theorem mem_identities {rows : List Row} {id : Int} :
    id ∈ identities P rows ↔ ∃ row ∈ rows, primaryId? P row = some id := by
  rw [identities, List.mem_mergeSort, List.mem_dedup, List.mem_filterMap]

theorem ascending_identities (rows : List Row) : (identities P rows).Pairwise (· < ·) := by
  have hSorted : (identities P rows).Pairwise fun a b => decide (a ≤ b) = true := by
    refine List.pairwise_mergeSort ?_ ?_ _
    · intro a b c hab hbc
      simp only [decide_eq_true_eq] at *
      omega
    · intro a b
      simp only [Bool.or_eq_true, decide_eq_true_eq]
      omega
  have hNodup : (identities P rows).Nodup :=
    (List.mergeSort_perm _ _).nodup_iff.mpr (List.nodup_dedup _)
  refine (hSorted.and hNodup).imp ?_
  rintro a b ⟨hLe, hNe⟩
  have hLe := of_decide_eq_true hLe
  omega

theorem mem_identities_iff_rowsOf {rows : List Row} {id : Int} :
    id ∈ identities P rows ↔ rowsOf P id rows ≠ [] := by
  rw [mem_identities]
  simp [rowsOf, List.filter_eq_nil_iff]

theorem rowsOf_filter_isSome (id : Int) (rows : List Row) :
    rowsOf P id (rows.filter fun row => (primaryId? P row).isSome) = rowsOf P id rows := by
  rw [rowsOf, List.filter_filter]
  refine List.filter_congr fun row _ => ?_
  cases primaryId? P row with
  | none => simp
  | some other => simp

/-! ## Groups -/

/-- The group of an identity: its primary entity is built from the first row with the identity, its
related entities from the rows with the identity, in their order. Unless all rows are to be kept,
those without a related identity are left out. -/
structure Group.Gathers (own related : List Column) (keep : Bool) (rows : List Row) (id : Int)
    (g : Group P R) : Prop where
  first : ∃ before row after, rows = before ++ row :: after ∧
    (∀ earlier ∈ before, primaryId? P earlier ≠ some id) ∧ primaryId? P row = some id ∧
    g.primary = row.build own
  related : g.related =
    (rows.filter fun row => decide (primaryId? P row = some id) &&
      (keep || !(row.get (Entity.kind R).identity).isNull)).map fun row => row.build related

theorem flatMap_relatedOf (related : List Column) (keep : Bool) (rows : List Row) :
    rows.flatMap (relatedOf R related keep) =
      (rows.filter fun row => keep || !(row.get (Entity.kind R).identity).isNull).map
        fun row => row.build related := by
  induction rows with
  | nil => rfl
  | cons row rows ih =>
    rw [List.flatMap_cons, ih, relatedOf, List.filter_cons]
    cases (row.get (Entity.kind R).identity).isNull <;> cases keep <;> rfl

theorem Group.gathers_ofRows {own related : List Column} {keep : Bool} {rows : List Row} {id : Int}
    (h : rowsOf P id rows ≠ []) :
    (Group.ofRows own related keep (rowsOf P id rows) : Group P R).Gathers own related keep rows
      id where
  first := by
    obtain ⟨row, rest, hRows⟩ := List.exists_cons_of_ne_nil h
    obtain ⟨before, after, hSplit, hBefore, hRow, -⟩ := List.filter_eq_cons_iff.mp hRows
    refine ⟨before, row, after, hSplit, ?_, of_decide_eq_true hRow, ?_⟩
    · intro earlier hEarlier hId
      exact hBefore earlier hEarlier (decide_eq_true hId)
    · rw [Group.ofRows, hRows]
      rfl
  related := by
    rw [Group.ofRows, flatMap_relatedOf, rowsOf, List.filter_filter]
    refine congrArg (List.map _) (List.filter_congr fun row _ => ?_)
    exact Bool.and_comm _ _

/-! ## Limits -/

/-- For any limit, assembly gives the groups of the identities that occur, cut to the limit. -/
theorem assemble_limited {own related : List Column} {keep : Bool} {rows : List Row}
    {ids : List Int} (hAscending : ids.Pairwise (· < ·))
    (hIds : ∀ id, id ∈ ids ↔ rowsOf P id rows ≠ []) (limit : Option Nat) :
    (assemble own related limit keep rows : List (Group P R)) =
      (limit.elim ids ids.take).map fun id => .ofRows own related keep (rowsOf P id rows) := by
  cases limit with
  | some n => exact assemble_eq hAscending hIds n
  | none =>
    have hGroups := (represents_foldl own related keep rows).eq_map (R := R) hAscending hIds
    simp only [assemble, hGroups, List.map_map]
    rfl

/-- Two lists of rows that have the same rows of each identity in the same order are assembled
alike. -/
theorem assemble_congr {own related : List Column} {keep : Bool} {rows others : List Row}
    (h : ∀ id, rowsOf P id others = rowsOf P id rows) (limit : Option Nat) :
    (assemble own related limit keep others : List (Group P R)) =
      assemble own related limit keep rows := by
  have hOthers : ∀ id, id ∈ identities P rows ↔ rowsOf P id others ≠ [] := fun id => by
    rw [h, mem_identities_iff_rowsOf]
  rw [assemble_limited (ascending_identities rows) (fun _ => mem_identities_iff_rowsOf),
    assemble_limited (ascending_identities rows) hOthers]
  simp only [h]

theorem assemble_prefix {own related : List Column} {keep : Bool} {rows : List Row} {n : Nat}
    {limit : Option Nat} (h : ∀ m ∈ limit, n ≤ m) :
    (assemble own related (some n) keep rows : List (Group P R)) <+:
      assemble own related limit keep rows := by
  unfold assemble
  cases limit with
  | none => exact List.take_prefix _ _
  | some m => exact List.take_prefix_take_left (h m rfl)

end

/-- Assembly is grouping by identity: the groups are those of the identities that occur, ascending
and cut to the limit, each made of the rows of its identity. Hence a smaller limit gives a front
part of the groups, rows without an identity add nothing, and rows of different identities can
change places. -/
theorem assemble_gathers {P R : Type} [Entity P] [Entity R] (own related : List Column)
    (keep : Bool) (rows : List Row) :
    (identities P rows).Pairwise (· < ·) ∧
      (∀ id, id ∈ identities P rows ↔ ∃ row ∈ rows, primaryId? P row = some id) ∧
      (∀ limit : Option Nat, List.Forall₂ (Group.Gathers own related keep rows)
        (limit.elim (identities P rows) (identities P rows).take)
        (assemble own related limit keep rows : List (Group P R))) ∧
      (∀ (n : Nat) (limit : Option Nat), (∀ m ∈ limit, n ≤ m) →
        (assemble own related (some n) keep rows : List (Group P R)) <+:
          assemble own related limit keep rows) ∧
      (∀ limit, (assemble own related limit keep
          (rows.filter fun row => (primaryId? P row).isSome) : List (Group P R)) =
        assemble own related limit keep rows) ∧
      ∀ others, (∀ id, rowsOf P id others = rowsOf P id rows) → ∀ limit,
        (assemble own related limit keep others : List (Group P R)) =
          assemble own related limit keep rows := by
  refine ⟨ascending_identities rows, fun id => mem_identities, fun limit => ?_,
    fun n limit h => assemble_prefix h, assemble_congr fun id => rowsOf_filter_isSome id rows,
    fun others h => assemble_congr h⟩
  rw [assemble_limited (ascending_identities rows) (fun _ => mem_identities_iff_rowsOf),
    List.forall₂_map_right_iff, List.forall₂_same]
  intro id hId
  have hMem : id ∈ identities P rows := by
    cases limit with
    | none => exact hId
    | some n => exact List.mem_of_mem_take hId
  exact Group.gathers_ofRows (mem_identities_iff_rowsOf.mp hMem)

/-- Two writings of one number make one group, a related identity that is no number still adds an
entity, and a row without a related identity begins its group without adding one. -/
theorem assemble_gathers_interleaved :
    let two := (Row.empty.set .campaignId (.string "+2")).set .adGroupId (.int 9)
    let one := Row.empty.set .campaignId (.int 1)
    let again := (Row.empty.set .campaignId (.int 2)).set .adGroupId (.string "new")
    let result : List (Group Campaign AdGroup) :=
      [⟨{ Campaign.blank with id := some 1 }, []⟩, ⟨{ Campaign.blank with id := some 2 },
        [{ AdGroup.blank with id := some 9 }, AdGroup.blank]⟩]
    assemble [.campaignId] [.adGroupId] (some 1) false [two, one, again] <+: result ∧
      assemble [.campaignId] [.adGroupId] (some 5) false [one, two, again] = result := by
  intro two one again result
  have hResult : assemble [.campaignId] [.adGroupId] (some 5) false [two, one, again] = result := by
    decide +kernel
  obtain ⟨-, -, -, hPrefix, -, hPlaces⟩ := assemble_gathers (P := Campaign) (R := AdGroup)
    [.campaignId] [.adGroupId] false [two, one, again]
  have hRows : ∀ id, rowsOf Campaign id [one, two, again] =
      rowsOf Campaign id [two, one, again] := by
    intro id
    have hTwo : primaryId? Campaign two = some 2 := by decide +kernel
    have hOne : primaryId? Campaign one = some 1 := by decide +kernel
    by_cases h : id = 1
    · simp [rowsOf, h, hTwo, hOne]
    · simp [rowsOf, List.filter_cons, hOne, Ne.symm h]
  rw [← hResult]
  exact ⟨hPrefix 1 (some 5) (by simp), hPlaces _ hRows _⟩

end CampaignFetch

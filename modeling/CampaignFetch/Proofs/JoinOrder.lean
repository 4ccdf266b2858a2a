import CampaignFetch.Proofs.Grouping
import CampaignFetch.Proofs.JoinedRows
import Mathlib.Data.List.Nodup

/-!
# The order of a join and its groups

The rows of a join come ordered by the primary identity and then by the related one. `Blocks` says
that the rows come in blocks, one for each primary entity: the rows of a block carry the entity's
identity, and no two rows of a block have the same related identity.

* `Blocks.filter_sorted`: the rows of one primary identity, as the whole order leaves them, are the
  block of its entity ordered by the related identity.
* `assemble_blocks`: assembly gives a group for each entity whose block has rows left, in ascending
  order of their identities.
-/

namespace CampaignFetch

/-! ## Orders of identities -/

namespace MemoryStore

theorem idLe_total (a b : Option Int) : (idLe a b || idLe b a) = true := by
  cases a <;> cases b <;> simp [idLe]
  omega

theorem idLe_trans {a b c : Option Int} (hab : idLe a b = true) (hbc : idLe b c = true) :
    idLe a c = true := by
  cases a <;> cases b <;> cases c <;> simp [idLe] at hab hbc ⊢
  omega

theorem idLe_antisymm {a b : Option Int} (hab : idLe a b = true) (hba : idLe b a = true) :
    a = b := by
  cases a <;> cases b <;> simp [idLe] at hab hba ⊢
  omega

end MemoryStore

namespace Joined

open MemoryStore

/-- Whether a row comes before another or is equal in order to it: by the primary identity, and by
the related one where the primary ones are equal. -/
def le (primary : Kind) (j k : Joined) : Bool :=
  if j.id? primary = k.id? primary then idLe (j.id? primary.other) (k.id? primary.other)
  else idLe (j.id? primary) (k.id? primary)

theorem rowLe_row {j k : Joined} (hj : j.Fits) (hk : k.Fits) (primary : Kind) :
    rowLe primary j.row k.row = le primary j k := by
  simp only [rowLe, orderId_row hj, orderId_row hk, le]

theorem le_total (primary : Kind) (j k : Joined) :
    (le primary j k || le primary k j) = true := by
  unfold le
  by_cases h : j.id? primary = k.id? primary
  · rw [if_pos h, if_pos h.symm]
    exact idLe_total _ _
  · rw [if_neg h, if_neg (Ne.symm h)]
    exact idLe_total _ _

theorem le_trans {primary : Kind} (i j k : Joined) (hij : le primary i j = true)
    (hjk : le primary j k = true) : le primary i k = true := by
  unfold le at *
  by_cases h₁ : i.id? primary = j.id? primary
  · by_cases h₂ : j.id? primary = k.id? primary
    · rw [if_pos h₁] at hij
      rw [if_pos h₂] at hjk
      rw [if_pos (h₁.trans h₂)]
      exact idLe_trans hij hjk
    · rw [if_neg h₂] at hjk
      rw [if_neg (h₁ ▸ h₂), h₁]
      exact hjk
  · rw [if_neg h₁] at hij
    by_cases h₂ : j.id? primary = k.id? primary
    · rw [if_neg (h₂ ▸ h₁), ← h₂]
      exact hij
    · rw [if_neg h₂] at hjk
      have hNe : i.id? primary ≠ k.id? primary := fun hEq => h₁ (idLe_antisymm hij (hEq ▸ hjk))
      rw [if_neg hNe]
      exact idLe_trans hij hjk

theorem le_antisymm {primary : Kind} {j k : Joined} (hjk : le primary j k = true)
    (hkj : le primary k j = true) :
    j.id? primary = k.id? primary ∧ j.id? primary.other = k.id? primary.other := by
  unfold le at *
  by_cases h : j.id? primary = k.id? primary
  · rw [if_pos h] at hjk
    rw [if_pos h.symm] at hkj
    exact ⟨h, idLe_antisymm hjk hkj⟩
  · rw [if_neg h] at hjk
    rw [if_neg (Ne.symm h)] at hkj
    exact absurd (idLe_antisymm hjk hkj) h

end Joined

/-! ## Blocks of rows -/

section

variable {α : Type} {primary : Kind} {id? : α → Option Int} {block : α → List Joined} {l : List α}

/-- Entities ordered by identity. -/
def sortById (id? : α → Option Int) (l : List α) : List α :=
  l.mergeSort fun a b => MemoryStore.idLe (id? a) (id? b)

theorem pairwise_sortById (id? : α → Option Int) (l : List α) :
    (sortById id? l).Pairwise fun a b => MemoryStore.idLe (id? a) (id? b) = true := by
  refine List.pairwise_mergeSort ?_ ?_ l
  · exact fun _ _ _ => MemoryStore.idLe_trans
  · exact fun _ _ => MemoryStore.idLe_total _ _

theorem mem_sortById {x : α} : x ∈ sortById id? l ↔ x ∈ l := List.mem_mergeSort

/-- The rows of a join come in blocks, one for each primary entity. -/
structure Blocks (primary : Kind) (id? : α → Option Int) (block : α → List Joined)
    (l : List α) : Prop where
  distinct : (l.map id?).Nodup
  identified : ∀ x ∈ l, (id? x).isSome = true
  primary_id : ∀ x ∈ l, ∀ j ∈ block x, j.id? primary = id? x
  fits : ∀ x ∈ l, ∀ j ∈ block x, j.Fits
  related_inj : ∀ x ∈ l, ∀ j ∈ block x, ∀ k ∈ block x,
    j.id? primary.other = k.id? primary.other → j = k

namespace Blocks

theorem eq_of_id (h : Blocks primary id? block l) {x y : α} (hx : x ∈ l) (hy : y ∈ l)
    (hEq : id? x = id? y) : x = y :=
  List.inj_on_of_nodup_map h.distinct hx hy hEq

/-- The rows of one identity are the block of its entity. -/
theorem filter_flatMap (h : Blocks primary id? block l) (p : Joined → Bool) {x : α} (hx : x ∈ l) :
    (l.flatMap block).filter (fun j => p j && decide (j.id? primary = id? x)) =
      (block x).filter p := by
  obtain ⟨before, after, rfl⟩ := List.append_of_mem hx
  have hOwn : (block x).filter (fun j => p j && decide (j.id? primary = id? x)) =
      (block x).filter p := by
    refine List.filter_congr fun j hj => ?_
    simp [h.primary_id x hx j hj]
  -- identities are distinct, so the blocks of other entities give nothing
  have hOther : ∀ y ∈ before ++ x :: after, y ≠ x →
      (block y).filter (fun j => p j && decide (j.id? primary = id? x)) = [] := by
    intro y hy hNe
    refine List.filter_eq_nil_iff.mpr fun j hj => ?_
    have hId : id? y ≠ id? x := fun hEq => hNe (h.eq_of_id hy hx hEq)
    simp [h.primary_id y hy j hj, hId]
  have hNodup : (before ++ x :: after).Nodup := h.distinct.of_map
  have hBefore : ∀ y ∈ before, y ≠ x := fun y hy hEq =>
    (List.nodup_append.mp hNodup).2.2 y hy x List.mem_cons_self hEq
  have hAfter : ∀ y ∈ after, y ≠ x := fun y hy hEq =>
    (List.nodup_cons.mp (List.nodup_append.mp hNodup).2.1).1 (hEq ▸ hy)
  rw [List.filter_flatMap, List.flatMap_append, List.flatMap_cons, hOwn,
    List.flatMap_eq_nil_iff.mpr fun y hy =>
      hOther y (List.mem_append_left _ hy) (hBefore y hy),
    List.flatMap_eq_nil_iff.mpr fun y hy =>
      hOther y (List.mem_append_right _ (List.mem_cons_of_mem _ hy)) (hAfter y hy)]
  simp

/-- The rows of one identity, in the order of the whole join, are the block of its entity ordered by
the related identity. -/
theorem filter_sorted (h : Blocks primary id? block l) (p : Joined → Bool) {x : α} (hx : x ∈ l) :
    ((l.flatMap block).mergeSort (Joined.le primary)).filter
        (fun j => p j && decide (j.id? primary = id? x)) =
      sortById (·.id? primary.other) ((block x).filter p) := by
  have hPerm : (((l.flatMap block).mergeSort (Joined.le primary)).filter
      fun j => p j && decide (j.id? primary = id? x)).Perm ((block x).filter p) := by
    rw [← h.filter_flatMap p hx]
    exact (List.mergeSort_perm _ _).filter _
  have hMem : ∀ j ∈ (block x).filter p, j ∈ block x := fun j hj => (List.mem_filter.mp hj).1
  have hLeft := ((List.pairwise_mergeSort Joined.le_trans (Joined.le_total primary)
    (l.flatMap block)).filter fun j => p j && decide (j.id? primary = id? x))
  have hRight : (sortById (·.id? primary.other) ((block x).filter p)).Pairwise
      fun j k => Joined.le primary j k = true := by
    refine (pairwise_sortById _ _).imp_of_mem fun {j k} hj hk hLe => ?_
    have hj' := h.primary_id x hx j (hMem j (mem_sortById.mp hj))
    have hk' := h.primary_id x hx k (hMem k (mem_sortById.mp hk))
    rw [Joined.le, if_pos (hj'.trans hk'.symm)]
    exact hLe
  -- the order is antisymmetric only within a block, where related identities tell rows apart
  refine List.Perm.eq_of_pairwise ?_ hLeft hRight (hPerm.trans (List.mergeSort_perm _ _).symm)
  intro j k hj hk hjk hkj
  exact h.related_inj x hx j (hMem j (hPerm.mem_iff.mp hj)) k
    (hMem k (mem_sortById.mp hk)) (Joined.le_antisymm hjk hkj).2

end Blocks

/-! ## Groups of blocks -/

variable {P R : Type} [Entity P] [Entity R]

theorem Joined.primaryId?_project {j : Joined} (h : j.Fits) {projection : List Column}
    (hIdentity : (Entity.kind P).identity ∈ projection) :
    primaryId? P (j.row.project projection) = j.id? (Entity.kind P) := by
  rw [primaryId?, Row.get_project, if_pos hIdentity, j.get_identity]
  exact Json.int64?_ofOption (Joined.fits_id? h _)

/-- The rows of a join that satisfy a condition, in order, with the projected columns. -/
def rowsInOrder (primary : Kind) (p : Joined → Bool) (projection : List Column)
    (pairs : List Joined) : List Row :=
  ((pairs.mergeSort (Joined.le primary)).filter p).map fun j => j.row.project projection

/-- The rows of a block that satisfy a condition, by related identity, projected. -/
def blockRows (related : Kind) (p : Joined → Bool) (projection : List Column)
    (block : List Joined) : List Row :=
  (sortById (·.id? related) (block.filter p)).map fun j => j.row.project projection

theorem Blocks.rowsOf_rowsInOrder (h : Blocks (Entity.kind P) id? block l) (p : Joined → Bool)
    {projection : List Column} (hIdentity : (Entity.kind P).identity ∈ projection) {x : α}
    (hx : x ∈ l) {n : Int} (hn : id? x = some n) :
    rowsOf P n (rowsInOrder (Entity.kind P) p projection (l.flatMap block)) =
      blockRows (Entity.kind P).other p projection (block x) := by
  rw [rowsOf, rowsInOrder, List.filter_map, List.filter_filter, blockRows, ← h.filter_sorted p hx]
  congr 1
  refine List.filter_congr fun j hj => ?_
  obtain ⟨y, hy, hBlock⟩ := List.mem_flatMap.mp (List.mem_mergeSort.mp hj)
  simp only [Function.comp_apply, Joined.primaryId?_project (h.fits y hy j hBlock) hIdentity, hn]
  exact Bool.and_comm _ _

/-- The entities with rows left, in the order of their identities. -/
def found (id? : α → Option Int) (block : α → List Joined) (p : Joined → Bool) (l : List α) :
    List α :=
  sortById id? (l.filter fun x => (block x).any p)

theorem mem_found {p : Joined → Bool} {x : α} :
    x ∈ found id? block p l ↔ x ∈ l ∧ ∃ j ∈ block x, p j = true := by
  simp [found, mem_sortById]

theorem Blocks.ascending_found (h : Blocks primary id? block l) (p : Joined → Bool) :
    ((found id? block p l).map fun x => (id? x).getD 0).Pairwise (· < ·) := by
  have hNodup : (found id? block p l).Nodup :=
    (List.mergeSort_perm _ _).nodup_iff.mpr (h.distinct.of_map.filter _)
  refine List.pairwise_map.mpr (((pairwise_sortById _ _).and hNodup).imp_of_mem ?_)
  rintro a b ha hb ⟨hLe, hNe⟩
  obtain ⟨hMemA, -⟩ := mem_found.mp ha
  obtain ⟨hMemB, -⟩ := mem_found.mp hb
  obtain ⟨m, hm⟩ := Option.isSome_iff_exists.mp (h.identified a hMemA)
  obtain ⟨n, hn⟩ := Option.isSome_iff_exists.mp (h.identified b hMemB)
  have hIds : m ≠ n := fun hEq => hNe (h.eq_of_id hMemA hMemB (by rw [hm, hn, hEq]))
  simp only [hm, hn, MemoryStore.idLe, decide_eq_true_eq] at hLe
  simp only [hm, hn, Option.getD_some]
  omega

/-- Assembly gives a group for each entity that has rows left, ascending, cut to the limit. -/
theorem assemble_blocks (h : Blocks (Entity.kind P) id? block l) (p : Joined → Bool)
    {projection : List Column} (hIdentity : (Entity.kind P).identity ∈ projection)
    (own related : List Column) (keep : Bool) (n : Nat) :
    (assemble own related (some n) keep
        (rowsInOrder (Entity.kind P) p projection (l.flatMap block)) : List (Group P R)) =
      ((found id? block p l).take n).map fun x =>
        .ofRows own related keep (blockRows (Entity.kind P).other p projection (block x)) := by
  have hId : ∀ x ∈ found id? block p l, id? x = some ((id? x).getD 0) := by
    intro x hx
    obtain ⟨n, hn⟩ := Option.isSome_iff_exists.mp (h.identified x (mem_found.mp hx).1)
    simp [hn]
  -- the identities among the rows are those of the entities that have rows left
  have hIds : ∀ i, i ∈ (found id? block p l).map (fun x => (id? x).getD 0) ↔
      rowsOf P i (rowsInOrder (Entity.kind P) p projection (l.flatMap block)) ≠ [] := by
    intro i
    constructor
    · intro hi
      obtain ⟨x, hx, rfl⟩ := List.mem_map.mp hi
      obtain ⟨hMem, j, hj, hp⟩ := mem_found.mp hx
      rw [h.rowsOf_rowsInOrder p hIdentity hMem (hId x hx)]
      refine List.ne_nil_of_mem (a := j.row.project projection) ?_
      exact List.mem_map_of_mem (mem_sortById.mpr (List.mem_filter.mpr ⟨hj, hp⟩))
    · intro hRows
      obtain ⟨row, hRow⟩ := List.exists_mem_of_ne_nil _ hRows
      obtain ⟨hMem, hPrimary⟩ := List.mem_filter.mp hRow
      obtain ⟨j, hj, rfl⟩ := List.mem_map.mp hMem
      obtain ⟨hSorted, hp⟩ := List.mem_filter.mp hj
      obtain ⟨x, hx, hBlock⟩ := List.mem_flatMap.mp (List.mem_mergeSort.mp hSorted)
      rw [decide_eq_true_eq, Joined.primaryId?_project (h.fits x hx j hBlock) hIdentity,
        h.primary_id x hx j hBlock] at hPrimary
      exact List.mem_map.mpr ⟨x, mem_found.mpr ⟨hx, j, hBlock, hp⟩, by simp [hPrimary]⟩
  rw [assemble_eq (h.ascending_found p) hIds, ← List.map_take, List.map_map]
  refine List.map_congr_left fun x hx => ?_
  have hFound := List.mem_of_mem_take hx
  rw [Function.comp_apply,
    h.rowsOf_rowsInOrder p hIdentity (mem_found.mp hFound).1 (hId x hFound)]

end

end CampaignFetch

/-!
# Splitting at a separator

`pieces` cuts a list at every occurrence of a separator. There is always one piece more than there
are separators, and the pieces hold none.

* `intercalate_pieces`, `pieces_intercalate`: cutting and joining undo each other.
-/

namespace CampaignFetch.Text

variable {α : Type} [DecidableEq α]

/-- The pieces of a list between the occurrences of a separator. -/
def pieces (separator : α) : List α → List (List α)
  | [] => [[]]
  | a :: as =>
    if a = separator then [] :: pieces separator as
    else match pieces separator as with
      | piece :: rest => (a :: piece) :: rest
      | [] => [[a]]

theorem pieces_ne_nil (separator : α) (as : List α) : pieces separator as ≠ [] := by
  cases as with
  | nil => simp [pieces]
  | cons a as =>
    unfold pieces
    split
    · simp
    · split <;> simp

theorem pieces_eq_splitOn (separator : α) (as : List α) :
    pieces separator as = as.splitOn separator := by
  induction as with
  | nil => rfl
  | cons a as ih =>
    rw [pieces, List.splitOn_cons_eq_if_modifyHead, ← ih]
    by_cases hSeparator : a = separator
    · rw [if_pos hSeparator, if_pos (beq_iff_eq.mpr hSeparator)]
    · rw [if_neg hSeparator, if_neg (mt beq_iff_eq.mp hSeparator)]
      cases hPieces : pieces separator as with
      | nil => exact absurd hPieces (pieces_ne_nil separator as)
      | cons piece rest => rfl

theorem intercalate_pieces (separator : α) (as : List α) :
    List.intercalate [separator] (pieces separator as) = as := by
  rw [pieces_eq_splitOn, List.intercalate_splitOn]

theorem pieces_intercalate {separator : α} {parts : List (List α)} (hSome : parts ≠ [])
    (hParts : ∀ part ∈ parts, separator ∉ part) :
    pieces separator (List.intercalate [separator] parts) = parts := by
  rw [pieces_eq_splitOn, List.splitOn_intercalate separator hParts hSome]

theorem not_mem_of_mem_pieces {separator : α} {as piece : List α}
    (h : piece ∈ pieces separator as) : separator ∉ piece := by
  induction as generalizing piece with
  | nil =>
    rw [pieces, List.mem_singleton] at h
    exact h ▸ List.not_mem_nil
  | cons a as ih =>
    unfold pieces at h
    split at h
    · rcases List.mem_cons.mp h with rfl | hRest
      · exact List.not_mem_nil
      · exact ih hRest
    · rename_i hNe
      split at h
      · rename_i first rest hPieces
        rcases List.mem_cons.mp h with rfl | hRest
        · have hFirst : separator ∉ first := ih (hPieces ▸ List.mem_cons_self)
          exact fun hMem => (List.mem_cons.mp hMem).elim (fun hEq => hNe hEq.symm) hFirst
        · exact ih (hPieces ▸ List.mem_cons_of_mem _ hRest)
      · rename_i hPieces
        exact absurd hPieces (pieces_ne_nil separator as)

end CampaignFetch.Text

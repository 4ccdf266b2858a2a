import CampaignFetch.Text.Blank

/-!
# What trimming leaves

`Trims s t` says without the way of trimming that `t` is what is left of `s`: blank texts stand
around it, and neither its first nor its last character is blank.

* `trim_eq_iff`: this is what trimming gives, and nothing else is.
* `trim_trim`, `trim_eq_empty_iff`: a trimmed text stays, and only blank texts trim to nothing.
-/

namespace CampaignFetch.Text

/-- Neither the first nor the last character of the text is blank. -/
structure Trimmed (s : String) : Prop where
  first : ∀ c ∈ s.toList.head?, isBlank c = false
  last : ∀ c ∈ s.toList.getLast?, isBlank c = false

/-- The second text is the first one without the blank characters around it. -/
def Trims (s t : String) : Prop :=
  ∃ front back, s = front ++ t ++ back ∧ isBlankText front = true ∧ isBlankText back = true ∧
    Trimmed t

/-! ## Blank characters in front -/

theorem trimStart_of_head? {cs : List Char} (h : ∀ c ∈ cs.head?, isBlank c = false) :
    trimStart cs = cs := by
  cases cs with
  | nil => rfl
  | cons c cs => simp [trimStart, h c rfl]

theorem trimStart_blank_append {front : List Char} (h : front.all isBlank = true)
    (cs : List Char) : trimStart (front ++ cs) = trimStart cs :=
  List.dropWhile_append_of_pos (List.all_eq_true.mp h)

theorem exists_blank_append_trimStart (cs : List Char) :
    ∃ front, front.all isBlank = true ∧ cs = front ++ trimStart cs :=
  ⟨cs.takeWhile isBlank, List.all_takeWhile, List.takeWhile_append_dropWhile.symm⟩

theorem not_isBlank_of_mem_head?_trimStart {cs : List Char} {c : Char}
    (h : c ∈ (trimStart cs).head?) : isBlank c = false := by
  have hHead := List.head?_dropWhile_not isBlank cs
  rw [trimStart, Option.mem_def] at h
  rw [h] at hHead
  simpa using hHead

/-! ## Trimming -/

theorem trims_trim (s : String) : Trims s (trim s) := by
  obtain ⟨front, hFront, hStart⟩ := exists_blank_append_trimStart s.toList
  obtain ⟨back, hBack, hEnd⟩ := exists_blank_append_trimStart (trimStart s.toList).reverse
  have hRest : trimStart s.toList = trimEnd (trimStart s.toList) ++ back.reverse := by
    rw [trimEnd, ← List.reverse_append, ← hEnd, List.reverse_reverse]
  refine ⟨String.ofList front, String.ofList back.reverse, ?_, ?_, ?_, ?_, ?_⟩
  · apply String.toList_inj.mp
    simp only [trim, String.toList_append, String.toList_ofList]
    rw [List.append_assoc, ← hRest]
    exact hStart
  · rw [isBlankText, String.toList_ofList]
    exact hFront
  · rw [isBlankText, String.toList_ofList, List.all_reverse]
    exact hBack
  · intro c hc
    rw [trim, String.toList_ofList] at hc
    -- what is left begins as the text without the blank characters in front
    have hHead : c ∈ (trimStart s.toList).head? := by
      rw [hRest, List.head?_append, Option.mem_def.mp hc]
      rfl
    exact not_isBlank_of_mem_head?_trimStart hHead
  · intro c hc
    rw [trim, String.toList_ofList, trimEnd, List.getLast?_reverse] at hc
    exact not_isBlank_of_mem_head?_trimStart hc

theorem Trims.trim_eq {s t : String} (h : Trims s t) : trim s = t := by
  obtain ⟨front, back, rfl, hFront, hBack, hTrimmed⟩ := h
  have hReversed : back.toList.reverse.all isBlank = true := List.all_reverse.trans hBack
  have hLast : trimStart t.toList.reverse = t.toList.reverse :=
    trimStart_of_head? (by rw [List.head?_reverse]; exact hTrimmed.last)
  have hEnd : trimEnd (t.toList ++ back.toList) = t.toList := by
    rw [trimEnd, List.reverse_append, trimStart_blank_append hReversed, hLast,
      List.reverse_reverse]
  apply String.toList_inj.mp
  rw [trim, String.toList_ofList, String.toList_append, String.toList_append, List.append_assoc,
    trimStart_blank_append hFront]
  cases hText : t.toList with
  | nil =>
    rw [List.nil_append, ← List.append_nil back.toList, trimStart_blank_append hBack]
    rfl
  | cons c cs =>
    rw [← hText, trimStart_of_head?, hEnd]
    intro first hFirst
    rw [hText] at hFirst
    exact hTrimmed.first first (by rw [hText]; exact hFirst)

/-- Trimming gives what is left without the blank characters around it. -/
theorem trim_eq_iff {s t : String} : trim s = t ↔ Trims s t :=
  ⟨fun h => h ▸ trims_trim s, Trims.trim_eq⟩

theorem Trimmed.trim_eq {s : String} (h : Trimmed s) : trim s = s :=
  Trims.trim_eq ⟨"", "", by simp, rfl, rfl, h⟩

theorem mem_of_mem_trim {s : String} {c : Char} (h : c ∈ (trim s).toList) : c ∈ s.toList := by
  obtain ⟨front, back, hText, -⟩ := trims_trim s
  rw [hText, String.toList_append, String.toList_append]
  exact List.mem_append_left _ (List.mem_append_right _ h)

theorem trimmed_trim (s : String) : Trimmed (trim s) := by
  obtain ⟨-, -, -, -, -, hTrimmed⟩ := trims_trim s
  exact hTrimmed

theorem trim_trim (s : String) : trim (trim s) = trim s := (trimmed_trim s).trim_eq

theorem trimmed_of_forall {s : String} (h : ∀ c ∈ s.toList, isBlank c = false) : Trimmed s where
  first c hc := h c (List.mem_of_mem_head? hc)
  last c hc := h c (List.mem_of_mem_getLast? hc)

/-- Blank texts around one without blank characters are all that is trimmed. -/
theorem trim_surrounded {front s back : String} (hFront : isBlankText front = true)
    (hBack : isBlankText back = true) (hNone : ∀ c ∈ s.toList, isBlank c = false) :
    trim (front ++ s ++ back) = s :=
  Trims.trim_eq ⟨front, back, rfl, hFront, hBack, trimmed_of_forall hNone⟩

/-- A text trims to nothing when all of its characters are blank. -/
theorem trim_eq_empty_iff {s : String} : trim s = "" ↔ isBlankText s = true := by
  rw [trim_eq_iff]
  constructor
  · rintro ⟨front, back, rfl, hFront, hBack, -⟩
    simpa [isBlankText, String.toList_append] using And.intro hFront hBack
  · intro hBlank
    exact ⟨s, "", by simp, hBlank, rfl, nofun, nofun⟩

end CampaignFetch.Text

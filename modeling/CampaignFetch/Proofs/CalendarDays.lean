import CampaignFetch.Calendar.Date

/-!
# Days and their numbers

The calendar has no gaps: the numbers of its days are all those from its first day to its last one.

* `daysBeforeYear_yearOf`: every number lies in the year that is found for it.
* `isDay_dayFrom`: within its year, a number leads to a day of a month.
* `Date.inRange_dayNumber`, `Date.exists_ofDayNumber?`: the numbers of the days are in the range, and
  a day is found for every number there.
-/

namespace CampaignFetch.Calendar

/-! ## Years -/

theorem daysBeforeYear_eq (year : Int) : daysBeforeYear year =
    365 * year + (year + 3) / 4 - (year + 99) / 100 + (year + 399) / 400 := by
  simp only [daysBeforeYear, Int.fdiv_eq_ediv_of_nonneg _ (by decide : (0 : Int) ≤ 4),
    Int.fdiv_eq_ediv_of_nonneg _ (by decide : (0 : Int) ≤ 100),
    Int.fdiv_eq_ediv_of_nonneg _ (by decide : (0 : Int) ≤ 400)]

/-- The number of days of a year. -/
def daysInYear (year : Int) : Nat := if isLeapYear year then 366 else 365

theorem daysBeforeYear_succ (year : Int) :
    daysBeforeYear (year + 1) = daysBeforeYear year + daysInYear year := by
  have hLeap : isLeapYear year = true ↔ year % 4 = 0 ∧ (year % 100 ≠ 0 ∨ year % 400 = 0) := by
    simp [isLeapYear]
  rw [daysBeforeYear_eq, daysBeforeYear_eq, daysInYear]
  split
  · rename_i hYes
    have := hLeap.mp hYes
    omega
  · rename_i hNo
    have := mt hLeap.mpr hNo
    omega

theorem daysBeforeYear_mono {year later : Int} (h : year ≤ later) :
    daysBeforeYear year ≤ daysBeforeYear later := by
  rw [daysBeforeYear_eq, daysBeforeYear_eq]
  omega

theorem daysBeforeYear_yearOf (day : Int) :
    daysBeforeYear (yearOf day) ≤ day ∧ day < daysBeforeYear (yearOf day + 1) := by
  unfold yearOf
  dsimp only
  rw [Int.fdiv_eq_ediv_of_nonneg _ (by decide : (0 : Int) ≤ 146097)]
  split
  · rename_i hBegun
    refine ⟨hBegun, ?_⟩
    rw [daysBeforeYear_eq]
    omega
  · rename_i hNot
    refine ⟨?_, ?_⟩
    · rw [daysBeforeYear_eq]
      omega
    · rw [Int.sub_add_cancel]
      exact Int.not_le.mp hNot

/-! ## Months -/

theorem daysInMonth_eq_zero {year : Int} {month : Nat} (h : ¬ (1 ≤ month ∧ month ≤ 12)) :
    daysInMonth year month = 0 := by
  unfold daysInMonth
  split <;> first | rfl | omega

theorem daysBeforeMonth_succ (year : Int) (month : Nat) :
    daysBeforeMonth year (month + 1) = daysBeforeMonth year month + daysInMonth year month := by
  rw [daysBeforeMonth, List.range_succ, List.foldl_append]
  rfl

theorem daysBeforeMonth_mono (year : Int) {month later : Nat} (h : month ≤ later) :
    daysBeforeMonth year month ≤ daysBeforeMonth year later := by
  induction h with
  | refl => exact Nat.le_refl _
  | step _ ih =>
    rw [daysBeforeMonth_succ]
    omega

/-- The twelve months make up the year. -/
theorem daysBeforeMonth_last (year : Int) : daysBeforeMonth year 13 = daysInYear year := by
  simp only [daysBeforeMonth, daysInYear, List.range, List.range.loop, List.foldl_cons,
    List.foldl_nil, daysInMonth]
  split <;> rfl

theorem daysBeforeMonth_dayFrom (year : Int) (months month left : Nat) :
    daysBeforeMonth year (dayFrom year month left months).1 +
        (dayFrom year month left months).2 = daysBeforeMonth year month + left + 1 := by
  induction months generalizing month left with
  | zero => rfl
  | succ months ih =>
    unfold dayFrom
    split
    · rfl
    · have hNext := ih (month + 1) (left - daysInMonth year month)
      rw [daysBeforeMonth_succ] at hNext
      omega

/-- Days that are left of the months passed over and the one after them lead to a day of a month. -/
theorem isDay_dayFrom (year : Int) (months month left : Nat)
    (h : daysBeforeMonth year month + left < daysBeforeMonth year (month + months + 1)) :
    1 ≤ (dayFrom year month left months).2 ∧
      (dayFrom year month left months).2 ≤
        daysInMonth year (dayFrom year month left months).1 := by
  induction months generalizing month left with
  | zero =>
    rw [Nat.add_zero, daysBeforeMonth_succ] at h
    simp only [dayFrom]
    omega
  | succ months ih =>
    unfold dayFrom
    split
    · rename_i hHere
      simp only
      omega
    · refine ih (month + 1) (left - daysInMonth year month) ?_
      rw [daysBeforeMonth_succ, Nat.add_right_comm month 1 months]
      rw [← Nat.add_assoc] at h
      omega

/-! ## Dates -/

namespace Date

theorem month_range (d : Date) : 1 ≤ d.month ∧ d.month ≤ 12 := by
  obtain ⟨-, -, hDay, hDays⟩ := d.isDate
  refine Decidable.byContradiction fun hNot => ?_
  rw [daysInMonth_eq_zero hNot] at hDays
  omega

/-- The number of a day lies in its year. -/
theorem dayNumber_range (d : Date) : daysBeforeYear d.year ≤ d.dayNumber + daysBeforeYear 1970 ∧
    d.dayNumber + daysBeforeYear 1970 < daysBeforeYear (d.year + 1) := by
  obtain ⟨-, -, hDay, hDays⟩ := d.isDate
  have hMonths := daysBeforeMonth_mono d.year (Nat.succ_le_succ d.month_range.2)
  rw [Nat.succ_eq_add_one, daysBeforeMonth_succ, daysBeforeMonth_last] at hMonths
  rw [daysBeforeYear_succ, dayNumber]
  omega

theorem dayNumber_of_ofDayNumber? {n : Int} {d : Date} (h : ofDayNumber? n = some d) :
    d.dayNumber = n := by
  obtain ⟨hLow, hHigh⟩ := daysBeforeYear_yearOf (n + daysBeforeYear 1970)
  dsimp only [ofDayNumber?, ofParts?] at h
  generalize yearOf (n + daysBeforeYear 1970) = year at h hLow
  split at h
  · cases h
    have hDays := daysBeforeMonth_dayFrom year 11 1
      (n + daysBeforeYear 1970 - daysBeforeYear year).toNat
    have hBegin : daysBeforeMonth year 1 = 0 := rfl
    rw [hBegin] at hDays
    rw [dayNumber]
    dsimp only
    omega
  · cases h

/-- The number lies between those of the first and the last day of the calendar. -/
def InRange (n : Int) : Prop :=
  daysBeforeYear firstYear ≤ n + daysBeforeYear 1970 ∧
    n + daysBeforeYear 1970 < daysBeforeYear (lastYear + 1)

theorem inRange_dayNumber (d : Date) : InRange d.dayNumber := by
  obtain ⟨hLow, hHigh⟩ := d.dayNumber_range
  have hFirst := daysBeforeYear_mono d.isDate.1
  have hLast := daysBeforeYear_mono (Int.add_le_add_right d.isDate.2.1 1)
  exact ⟨Int.le_trans hFirst hLow, Int.lt_of_lt_of_le hHigh hLast⟩

/-- A day is found for every number in the range. -/
theorem exists_ofDayNumber? {n : Int} (h : InRange n) : ∃ d, ofDayNumber? n = some d := by
  obtain ⟨hFirst, hLast⟩ := h
  obtain ⟨hLow, hHigh⟩ := daysBeforeYear_yearOf (n + daysBeforeYear 1970)
  dsimp only [ofDayNumber?]
  generalize yearOf (n + daysBeforeYear 1970) = year at hLow hHigh
  have hYear : firstYear ≤ year ∧ year ≤ lastYear := by
    constructor
    · refine Int.not_lt.mp fun hBefore => ?_
      have := daysBeforeYear_mono (Int.add_one_le_of_lt hBefore)
      omega
    · refine Int.not_lt.mp fun hAfter => ?_
      have := daysBeforeYear_mono (Int.add_one_le_of_lt hAfter)
      omega
  have hBegin : daysBeforeMonth year 1 = 0 := rfl
  have hLeft : daysBeforeMonth year 1 + (n + daysBeforeYear 1970 - daysBeforeYear year).toNat <
      daysBeforeMonth year 13 := by
    rw [daysBeforeYear_succ] at hHigh
    rw [hBegin, daysBeforeMonth_last]
    omega
  exact ⟨_, dif_pos ⟨hYear.1, hYear.2, isDay_dayFrom year 11 1 _ hLeft⟩⟩

end Date

end CampaignFetch.Calendar

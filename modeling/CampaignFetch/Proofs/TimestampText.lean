import CampaignFetch.Calendar.Reading
import CampaignFetch.Proofs.CalendarDays
import CampaignFetch.Proofs.IntegerText
import CampaignFetch.Proofs.Results
import Mathlib.Algebra.Group.Nat.Defs

/-!
# Timestamps as texts

Writing a timestamp as the text of a column and reading the text back cuts the timestamp to whole
microseconds and changes nothing else, whatever the sign and the size of the year. Its exact text is
read back as the very timestamp.

* `readNumber_padded`: a number is read from its digits when reading stops behind them.
* `readPart_padded`, `readYear_yearText`: the parts of a timestamp are read from what is written.
* `read_microText`, `read_microText_document`: the text of a column, in the layout of columns and in
  that of documents.
* `read_text`: the exact text, in the layout of documents.
-/

namespace CampaignFetch

namespace Calendar

open Text

theorem isDigit_of_mem_padded {width n : Nat} {c : Char} (h : c ∈ padded width n) :
    c.isDigit = true := by
  rcases List.mem_append.mp h with hZero | hDigit
  · rw [(List.mem_replicate.mp hZero).2]
    rfl
  · exact Nat.isDigit_of_mem_toDigits (by decide) (by decide) hDigit

theorem length_padded {width n : Nat} (hWidth : 0 < width) (h : n < 10 ^ width) :
    (padded width n).length = width := by
  have := (Nat.length_toDigits_le_iff (by decide) hWidth).mpr h
  simp only [padded, List.length_append, List.length_replicate]
  omega

theorem padded_ne_nil (width n : Nat) : padded width n ≠ [] := by
  simp [padded]

theorem digitsFrom_padded (width n : Nat) : digitsFrom 0 (padded width n) = some n := by
  rw [digitsFrom_eq_ofDigitChars fun c hc => isDigit_of_mem_padded hc]
  simp [padded, Nat.ofDigitChars_append]

theorem trimStart_padded (width n : Nat) (rest : List Char) :
    trimStart (padded width n ++ rest) = padded width n ++ rest := by
  cases hDigits : padded width n with
  | nil => exact absurd hDigits (padded_ne_nil width n)
  | cons c cs =>
    exact trimStart_of_isDigit (isDigit_of_mem_padded (hDigits ▸ List.mem_cons_self)) _

/-! ## Numbers -/

theorem takeWhile_isDigit_padded (width n : Nat) (rest : List Char) :
    (padded width n ++ rest).takeWhile Char.isDigit =
      padded width n ++ rest.takeWhile Char.isDigit :=
  List.takeWhile_append_of_pos fun _ hc => isDigit_of_mem_padded hc

/-- A number is read from its digits when they are all that is taken. -/
theorem readNumber_padded {least most width n : Nat} {rest : List Char}
    (hLeast : least ≤ (padded width n).length) (hMax : (n : Int) ≤ int64Max)
    (hSpan : ((padded width n ++ rest).take most).takeWhile Char.isDigit = padded width n) :
    readNumber least most (padded width n ++ rest) = .ok (n, rest) := by
  have hShort : ¬ (padded width n).length + rest.length < least := by omega
  have hRange : ¬ int64Max < (n : Int) := by omega
  have hFew : ¬ (padded width n).length < least := by omega
  simp [readNumber, spanDigits, hSpan, hShort, hFew, digitsFrom_padded, hRange]

/-- As many digits are read as are written, when that is the most that may be read. -/
theorem readNumber_exact {least width n : Nat} {rest : List Char} (hWidth : 0 < width)
    (hLeast : least ≤ width) (hn : n < 10 ^ width) (hMax : (n : Int) ≤ int64Max) :
    readNumber least width (padded width n ++ rest) = .ok (n, rest) := by
  have hLength := length_padded hWidth hn
  refine readNumber_padded (by omega) hMax ?_
  rw [List.take_left' hLength]
  simpa using takeWhile_isDigit_padded width n []

/-- Digits are read up to a separator, when there is no bound on their number. -/
theorem readNumber_upTo (width : Nat) {n : Nat} {separator : Char} (rest : List Char)
    (hSeparator : separator.isDigit = false) (hMax : (n : Int) ≤ int64Max) :
    readNumber 1 (padded width n ++ separator :: rest).length.succ
      (padded width n ++ separator :: rest) = .ok (n, separator :: rest) := by
  have hNonempty := List.length_pos_iff.mpr (padded_ne_nil width n)
  refine readNumber_padded hNonempty hMax ?_
  rw [List.take_of_length_le (Nat.le_succ _), takeWhile_isDigit_padded]
  simp [hSeparator]

/-! ## Parts of a timestamp -/

theorem readPart_padded {low high n : Nat} {rest : List Char} (hLow : low ≤ n) (hHigh : n ≤ high)
    (hTwo : n < 100) : readPart low high (padded 2 n ++ rest) = .ok (n, rest) := by
  have hRead : readNumber 1 2 (padded 2 n ++ rest) = .ok (n, rest) :=
    readNumber_exact (by decide) (by decide) hTwo (by simp only [int64Max]; omega)
  simp only [readPart, trimStart_padded, hRead, bind, Except.bind, hLow, hHigh, and_self, if_true]
  rfl

theorem readSigned_yearText {year : Int} (hMax : (year.natAbs : Int) ≤ int64Max)
    (rest : List Char) : readSigned (yearText year ++ '-' :: rest) = .ok (year, '-' :: rest) := by
  have hSigned := readNumber_upTo 4 rest (by rfl : '-'.isDigit = false) hMax
  unfold yearText
  split
  · rename_i hPlain
    have hRead : readNumber 1 4 (padded 4 year.natAbs ++ '-' :: rest) =
        .ok (year.natAbs, '-' :: rest) :=
      readNumber_exact (by decide) (by decide) (by omega) hMax
    have hAbs : (year.natAbs : Int) = year := by omega
    -- no sign stands at the front, so the reader takes four digits at most
    have hDigit : ∀ c cs, padded 4 year.natAbs ++ '-' :: rest = c :: cs → c.isDigit = true := by
      intro c cs hEq
      cases hDigits : padded 4 year.natAbs with
      | nil => exact absurd hDigits (padded_ne_nil 4 _)
      | cons d ds =>
        rw [hDigits] at hEq
        cases hEq
        exact isDigit_of_mem_padded (hDigits ▸ List.mem_cons_self)
    unfold readSigned
    rw [trimStart_padded]
    split
    · rename_i hMinus
      exact absurd (hDigit _ _ hMinus) (by decide)
    · rename_i hPlus
      exact absurd (hDigit _ _ hPlus) (by decide)
    · simp only [hRead, Except.map, hAbs]
  · have hBlank : isBlank '-' = false ∧ isBlank '+' = false := by decide
    -- behind a sign there may be any number of digits
    by_cases hNegative : year < 0
    · have hAbs : -(year.natAbs : Int) = year := by omega
      simp only [hNegative, if_true, List.cons_append, readSigned, trimStart, List.dropWhile_cons,
        hBlank, Bool.false_eq_true, if_false, hSigned, Except.map, hAbs]
    · have hAbs : (year.natAbs : Int) = year := by omega
      simp only [hNegative, List.cons_append, readSigned, trimStart, List.dropWhile_cons, hBlank,
        Bool.false_eq_true, if_false, hSigned, Except.map, hAbs]

theorem readYear_yearText {year : Int} (hFirst : firstYear ≤ year) (hLast : year ≤ lastYear)
    (rest : List Char) : readYear (yearText year ++ '-' :: rest) = .ok (year, '-' :: rest) := by
  have hMax : (year.natAbs : Int) ≤ int64Max := by
    simp only [firstYear, lastYear, int64Max] at *
    omega
  have hRange : -2147483648 ≤ year ∧ year ≤ 2147483647 := by
    simp only [firstYear, lastYear] at *
    omega
  unfold readYear
  rw [readSigned_yearText hMax, ok_bind]
  dsimp only
  rw [if_pos hRange]
  rfl

theorem Layout.readSeparator_cons (l : Layout) {separator : Char}
    (hBlank : isBlank separator = false) (rest : List Char) :
    l.readSeparator separator (separator :: rest) = .ok rest := by
  have hSkip : l.skip (separator :: rest) = separator :: rest := by
    unfold Layout.skip
    split
    · simp [trimStart, hBlank]
    · rfl
  simp [Layout.readSeparator, hSkip]

theorem Layout.readFraction_column {micros : Nat} (h : micros < 1000000) :
    Layout.column.readFraction ('.' :: padded 6 micros) = .ok (micros * 1000, []) := by
  have hRead : readNumber 6 6 (padded 6 micros ++ []) = .ok (micros, []) :=
    readNumber_exact (by decide) (by decide) h (by simp only [int64Max]; omega)
  rw [List.append_nil] at hRead
  simp [Layout.readFraction, Layout.column, hRead, length_padded (by decide : 0 < 6) h, bind,
    Except.bind, pure, Except.pure]

theorem Layout.readFraction_document {width n : Nat} (hWidth : 0 < width) (hNine : width ≤ 9)
    (h : n < 10 ^ width) :
    Layout.document.readFraction ('.' :: padded width n) = .ok (n * 10 ^ (9 - width), []) := by
  have hLength := length_padded hWidth h
  have hNine' : 10 ^ width ≤ 10 ^ 9 := Nat.pow_le_pow_right (by decide) hNine
  have hRead : readNumber 1 9 (padded width n ++ []) = .ok (n, []) := by
    refine readNumber_padded (by omega) (by simp only [int64Max]; omega) ?_
    rw [List.append_nil, List.take_of_length_le (by omega)]
    simpa using takeWhile_isDigit_padded width n []
  rw [List.append_nil] at hRead
  simp [Layout.readFraction, Layout.document, hRead, hLength, bind, Except.bind, pure, Except.pure]

theorem Layout.readFraction_fractionText {nanosecond : Nat} (h : nanosecond < 1000000000) :
    Layout.document.readFraction (fractionText nanosecond) = .ok (nanosecond, []) := by
  unfold fractionText
  split
  · rename_i hZero
    rw [hZero]
    rfl
  · split
    · have hMillis : nanosecond / 1000000 < 10 ^ 3 := by omega
      have hExact : nanosecond / 1000000 * 10 ^ (9 - 3) = nanosecond := by omega
      rw [readFraction_document (by decide) (by decide) hMillis, hExact]
    · split
      · have hMicros : nanosecond / 1000 < 10 ^ 6 := by omega
        have hExact : nanosecond / 1000 * 10 ^ (9 - 6) = nanosecond := by omega
        rw [readFraction_document (by decide) (by decide) hMicros, hExact]
      · have hNanos : nanosecond < 10 ^ 9 := h
        rw [readFraction_document (by decide) (by decide) hNanos, Nat.sub_self, Nat.pow_zero,
          Nat.mul_one]

theorem daysInMonth_le (year : Int) (month : Nat) : daysInMonth year month ≤ 31 := by
  unfold daysInMonth
  split <;> (try split) <;> omega

theorem Timestamp.ofParts?_parts (t : Timestamp) :
    Timestamp.ofParts? t.date.year t.date.month t.date.day t.hour t.minute t.second t.nanosecond =
      some t := by
  simp only [ofParts?, Date.ofParts?, dif_pos t.date.isDate, Option.bind_eq_bind, Option.bind_some,
    dif_pos t.isTime]

/-- A timestamp is read from its text up to the second and a fraction that is read as its
nanoseconds. -/
theorem Layout.read_of_readFraction {l : Layout} {t : Timestamp} {fraction : List Char}
    (hFraction : l.readFraction fraction = .ok (t.nanosecond, [])) :
    l.read (String.ofList (t.secondText ++ fraction)) = .ok t := by
  obtain ⟨hFirst, hLast, hDay, hDays⟩ := t.date.isDate
  obtain ⟨hHour, hMinute, hSecond, hNano⟩ := t.isTime
  have hMonth := t.date.month_range
  have hDayMax := daysInMonth_le t.date.year t.date.month
  simp only [Layout.read, Timestamp.secondText, String.toList_ofList,
    List.append_assoc, List.cons_append, readYear_yearText hFirst hLast,
    l.readSeparator_cons (by decide : isBlank '-' = false),
    l.readSeparator_cons (by decide : isBlank 'T' = false),
    l.readSeparator_cons (by decide : isBlank ':' = false),
    readPart_padded hMonth.1 hMonth.2 (by omega),
    readPart_padded hDay (Nat.le_trans hDays hDayMax) (by omega),
    readPart_padded (Nat.zero_le t.hour) hHour (by omega),
    readPart_padded (Nat.zero_le t.minute) hMinute (by omega),
    readPart_padded (Nat.zero_le t.second) hSecond (by omega),
    hFraction, ok_bind]
  rw [if_neg (by simp [Layout.skip, trimStart]), Timestamp.ofParts?_parts]
  rfl

theorem read_microText (t : Timestamp) : Layout.column.read t.microText = .ok t.truncate := by
  have hNano := t.isTime.2.2.2
  have hMicros : t.nanosecond / 1000 < 1000000 := by omega
  exact Layout.read_of_readFraction (t := t.truncate) (Layout.readFraction_column hMicros)

theorem read_microText_document (t : Timestamp) :
    Layout.document.read t.microText = .ok t.truncate := by
  have hNano := t.isTime.2.2.2
  have hMicros : t.nanosecond / 1000 < 10 ^ 6 := by omega
  exact Layout.read_of_readFraction (t := t.truncate)
    (Layout.readFraction_document (by decide) (by decide) hMicros)

/-- The exact text of a timestamp is read as the timestamp. -/
theorem read_text (t : Timestamp) : Layout.document.read t.text = .ok t :=
  Layout.read_of_readFraction (Layout.readFraction_fractionText t.isTime.2.2.2)

theorem Timestamp.microText_truncate (t : Timestamp) : t.truncate.microText = t.microText := by
  have hMicros : t.nanosecond / 1000 * 1000 / 1000 = t.nanosecond / 1000 := by omega
  simp only [microText, truncate, secondText, hMicros]

end Calendar

end CampaignFetch

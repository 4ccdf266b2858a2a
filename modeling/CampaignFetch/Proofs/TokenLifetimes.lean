import CampaignFetch.Proofs.CalendarDays
import CampaignFetch.Token.Claims

/-!
# How long tokens live

A token lives as long as it was asked for, to the second, and is refused when its end is no instant
of the calendar. On the way there, the hours become a number with a sign, this becomes a span, and
the span moves an instant. Each of the three steps has an end of its own, but nothing reaches that
of a number or of a span without being beyond that of the calendar.

* `Instant.toInt_timestamp`: the whole seconds are counted without overflow.
* `Instant.exists_ofDaySeconds?`: the instants cover the calendar without gaps.
* `Claims.issueAt_eq`, `Claims.issue_eq`: the one condition that is left of all steps.
* `lifetimes_exact`: when a token is issued, and what it claims.
-/

namespace CampaignFetch

namespace Calendar

/-- The number of seconds from the start of 1970 to the beginning of the calendar. -/
def beginOfCalendar : Int := (daysBeforeYear firstYear - daysBeforeYear 1970) * 86400

namespace Instant

variable {i j : Instant}

/-! ## Seconds -/

/-- The number of whole seconds from the start of 1970 to an instant. -/
def seconds (i : Instant) : Int := i.date.dayNumber * 86400 + i.second

/-- The number of nanoseconds from the start of 1970 to an instant. -/
def nanoseconds (i : Instant) : Int := i.seconds * 1000000000 + i.nanosecond

theorem seconds_eq (i : Instant) : i.seconds = i.nanoseconds / 1000000000 := by
  have hNanosecond := i.isTime.2
  rw [nanoseconds]
  omega

theorem seconds_range (i : Instant) : beginOfCalendar ≤ i.seconds ∧ i.seconds < endOfCalendar := by
  obtain ⟨hFirst, hLast⟩ := i.date.inRange_dayNumber
  have hSecond := i.isTime.1
  rw [beginOfCalendar, endOfCalendar, seconds]
  omega

/-- The whole seconds are counted in sixty-four bits without overflow. -/
theorem toInt_timestamp (i : Instant) : i.timestamp.toInt = i.seconds := by
  have hBegin : -2 ^ 63 ≤ beginOfCalendar := by decide
  have hEnd : endOfCalendar ≤ 2 ^ 63 := by decide
  obtain ⟨hLow, hHigh⟩ := i.seconds_range
  have hWord : i.timestamp = Int64.ofInt i.seconds := by
    rw [seconds, Int64.ofInt_add, Int64.ofInt_mul]
    rfl
  rw [hWord]
  exact Int64.toInt_ofInt_of_le (Int.le_trans hBegin hLow) (Int.lt_of_lt_of_le hHigh hEnd)

/-! ## Moving -/

section

variable {day seconds : Int} {nanosecond : Nat} {h : nanosecond < 1000000000}

theorem of_ofDaySeconds? (hFound : ofDaySeconds? day seconds nanosecond h = some j) :
    j.seconds = day * 86400 + seconds ∧ j.nanosecond = nanosecond := by
  unfold ofDaySeconds? at hFound
  cases hDate : Date.ofDayNumber? (day + seconds / 86400) with
  | none => simp [hDate] at hFound
  | some date =>
    simp only [hDate, Option.bind_eq_bind, Option.bind_some, Option.pure_def,
      Option.some.injEq] at hFound
    subst hFound
    refine ⟨?_, rfl⟩
    rw [Instant.seconds, Date.dayNumber_of_ofDayNumber? hDate]
    dsimp only
    omega

/-- Every second between the beginning and the end of the calendar is found. -/
theorem exists_ofDaySeconds? (hBegin : beginOfCalendar ≤ day * 86400 + seconds)
    (hEnd : day * 86400 + seconds < endOfCalendar) :
    ∃ j, ofDaySeconds? day seconds nanosecond h = some j := by
  have hRange : Date.InRange (day + seconds / 86400) := by
    rw [beginOfCalendar] at hBegin
    rw [endOfCalendar] at hEnd
    constructor <;> omega
  obtain ⟨date, hDate⟩ := Date.exists_ofDayNumber? hRange
  simp only [ofDaySeconds?, hDate, Option.bind_eq_bind, Option.bind_some, Option.pure_def]
  exact ⟨_, rfl⟩

end

theorem seconds_of_add? {s : Span} (h : i.add? s = some j) :
    j.seconds = i.seconds + s.seconds := by
  have hSeconds := (of_ofDaySeconds? h).1
  rw [hSeconds, seconds, Int.add_assoc]

theorem exists_add? {s : Span} (hBegin : beginOfCalendar ≤ i.seconds + s.seconds)
    (hEnd : i.seconds + s.seconds < endOfCalendar) : ∃ j, i.add? s = some j := by
  rw [seconds, Int.add_assoc] at hBegin hEnd
  exact exists_ofDaySeconds? hBegin hEnd

end Instant

end Calendar

/-! ## Claims -/

namespace Claims

open Calendar

variable {now ending : Instant} {hours : Nat}

theorem seconds_of_ending? (h : ending? now hours = some ending) :
    ending.seconds = now.seconds + 3600 * hours := by
  simp only [ending?, Option.bind_eq_bind, Option.bind_eq_some_iff, Option.guard_eq_some_iff] at h
  obtain ⟨signed, ⟨rfl, -⟩, span, hSpan, hAdd⟩ := h
  unfold Span.ofHours? at hSpan
  split at hSpan
  · cases hSpan
    exact Instant.seconds_of_add? hAdd
  · cases hSpan

/-- Only the calendar ends a lifetime: neither number nor span does so first. -/
theorem exists_ending? (h : now.seconds + 3600 * hours < endOfCalendar) :
    ∃ ending, ending? now hours = some ending := by
  have hLength : 1000 * (endOfCalendar - beginOfCalendar) ≤ Text.int64Max := by decide
  have hMin : Text.int64Min ≤ 0 := by decide
  have hBegin := now.seconds_range.1
  have hSigned : Text.fitsInt64 hours = true := by
    simp only [Text.fitsInt64, Bool.and_eq_true, decide_eq_true_eq]
    omega
  have hSpan : 1000 * ((3600 * (hours : Int)).natAbs : Int) ≤ Text.int64Max := by omega
  have hEnding : ∃ ending, now.add? ⟨3600 * hours, hSpan⟩ = some ending :=
    Instant.exists_add? (by dsimp only; omega) h
  obtain ⟨ending, hEnding⟩ := hEnding
  refine ⟨ending, ?_⟩
  simp only [ending?, Option.guard, hSigned, if_true, Span.ofHours?, dif_pos hSpan,
    Option.bind_eq_bind, Option.bind_some]
  exact hEnding

/-- The end of the calendar is the only condition. -/
theorem issueAt_eq (now : Instant) (subject : String) (hours : Nat) :
    issueAt now subject hours =
      if now.seconds + 3600 * hours < endOfCalendar then
        .ok ⟨subject, now.seconds + 3600 * hours, now.seconds⟩
      else .error (lifetimeTooLong hours) := by
  unfold issueAt
  split
  · rename_i ending hEnding
    have hSeconds := seconds_of_ending? hEnding
    have hBefore := ending.seconds_range.2
    rw [Instant.toInt_timestamp, Instant.toInt_timestamp, hSeconds]
    exact (if_pos (hSeconds ▸ hBefore)).symm
  · rename_i hNone
    refine (if_neg fun hBefore => ?_).symm
    obtain ⟨ending, hEnding⟩ := exists_ending? hBefore
    rw [hNone] at hEnding
    cases hEnding

theorem issue_eq {now : Int} (h : beginOfCalendar ≤ now) (subject : String) (hours : Nat) :
    issue now subject hours =
      if now + 3600 * hours < endOfCalendar then .ok ⟨subject, now + 3600 * hours, now⟩
      else .error (lifetimeTooLong hours) := by
  unfold issue
  split
  · rename_i shown hShown
    have hSeconds : shown.seconds = now := by
      simpa using (Instant.of_ofDaySeconds? hShown).1
    rw [issueAt_eq, hSeconds]
  · rename_i hNone
    refine (if_neg fun hBefore => ?_).symm
    obtain ⟨shown, hShown⟩ : ∃ shown, Instant.ofSeconds? now = some shown :=
      Instant.exists_ofDaySeconds? (by omega) (by omega)
    rw [hNone] at hShown
    cases hShown

end Claims

open Calendar

/-! ## Lifetimes -/

/-- The calendar has the instant so many hours later exactly when it has not ended by then. -/
theorem exists_nanoseconds_iff (now : Instant) (hours : Nat) :
    (∃ ending : Instant, ending.nanoseconds = now.nanoseconds + 3600 * hours * 1000000000) ↔
      now.seconds + 3600 * hours < endOfCalendar := by
  constructor
  · rintro ⟨ending, hEnding⟩
    have hBefore := ending.seconds_range.2
    rw [Instant.seconds_eq] at hBefore ⊢
    omega
  · intro hBefore
    have hBegin := now.seconds_range.1
    rw [Instant.seconds] at hBegin hBefore
    -- the sum stays below the end of the calendar, so none of the range checks fails
    have hFound : ∃ ending, Instant.ofDaySeconds? now.date.dayNumber
        (now.second + 3600 * hours) now.nanosecond now.isTime.2 = some ending :=
      Instant.exists_ofDaySeconds? (by omega) (by omega)
    obtain ⟨ending, hEnding⟩ := hFound
    obtain ⟨hSeconds, hNanosecond⟩ := Instant.of_ofDaySeconds? hEnding
    refine ⟨ending, ?_⟩
    rw [Instant.nanoseconds, Instant.nanoseconds, hSeconds, hNanosecond, Instant.seconds]
    omega

/-- A token is issued for so many hours exactly when the calendar has the instant that comes so many
hours after what the clock shows, and otherwise the lifetime is refused. Its claims are the whole
seconds of the clock and of that instant, which differ by just these hours. Whoever may have a token
may have one for fewer hours, and it expires earlier. A clock without the part of the second that
has passed makes no difference. -/
theorem lifetimes_exact (now : Instant) (subject : String) (hours : Nat) :
    ((∃ ending : Instant, ending.nanoseconds = now.nanoseconds + 3600 * hours * 1000000000) →
      ∃ claims, Claims.issueAt now subject hours = .ok claims ∧ claims.subject = subject ∧
        claims.issued = now.nanoseconds / 1000000000 ∧
        claims.expires - claims.issued = 3600 * hours) ∧
      ((¬ ∃ ending : Instant,
          ending.nanoseconds = now.nanoseconds + 3600 * hours * 1000000000) →
        Claims.issueAt now subject hours = .error (.generation
          ("Token lifetime of " ++ Text.ofInt hours ++ " hours is out of range"))) ∧
      (∀ claims, Claims.issueAt now subject hours = .ok claims → ∀ fewer < hours,
        ∃ earlier, Claims.issueAt now subject fewer = .ok earlier ∧
          earlier.expires < claims.expires) ∧
      Claims.issue (now.nanoseconds / 1000000000) subject hours =
        Claims.issueAt now subject hours := by
  rw [exists_nanoseconds_iff, ← Instant.seconds_eq]
  refine ⟨?_, ?_, ?_, ?_⟩
  · intro hBefore
    refine ⟨_, (Claims.issueAt_eq now subject hours).trans (if_pos hBefore), rfl, rfl, ?_⟩
    dsimp only
    omega
  · intro hBeyond
    exact (Claims.issueAt_eq now subject hours).trans (if_neg hBeyond)
  · intro claims hClaims fewer hFewer
    rw [Claims.issueAt_eq] at hClaims
    split at hClaims
    · rename_i hBefore
      cases hClaims
      have hEarlier : now.seconds + 3600 * fewer < now.seconds + 3600 * hours := by omega
      exact ⟨_, (Claims.issueAt_eq now subject fewer).trans
        (if_pos (Int.lt_trans hEarlier hBefore)), hEarlier⟩
    · cases hClaims
  · rw [Claims.issue_eq now.seconds_range.1, Claims.issueAt_eq]

/-- A quarter of a second before half past nine on a day of 2024. -/
def sampleClock : Instant where
  date := ⟨2024, 1, 15, by decide⟩
  second := 34199
  nanosecond := 750000000
  isTime := by decide

/-- The longest lifetime at that time ends in the last hour of the calendar, after that of a day. One
hour more is refused, and so is the greatest number of sixty-four bits. -/
theorem lifetimes_exact_longest :
    (∃ claims, Claims.issueAt sampleClock "reporting" 2280155990 = .ok claims ∧
      claims.expires - claims.issued = 8208561564000 ∧
      ∃ earlier, Claims.issueAt sampleClock "reporting" 24 = .ok earlier ∧
        earlier.expires < claims.expires) ∧
    Claims.issueAt sampleClock "reporting" 2280155991 = .error (.generation
      "Token lifetime of 2280155991 hours is out of range") ∧
    Claims.issueAt sampleClock "reporting" 18446744073709551615 = .error (.generation
      "Token lifetime of 18446744073709551615 hours is out of range") := by
  have hEnding : ∃ ending : Instant,
      ending.nanoseconds = sampleClock.nanoseconds + 3600 * (2280155990 : Nat) * 1000000000 :=
    ⟨⟨⟨262142, 12, 31, by decide⟩, 84599, 750000000, by decide⟩, by decide +kernel⟩
  have hBeyond : ∀ hours : Nat, 2280155991 ≤ hours → ¬ ∃ ending : Instant,
      ending.nanoseconds = sampleClock.nanoseconds + 3600 * hours * 1000000000 := by
    intro hours hHours
    rw [exists_nanoseconds_iff, show sampleClock.seconds = 1705310999 by decide +kernel,
      show endOfCalendar = 8210266876800 by decide +kernel]
    omega
  obtain ⟨hIssued, -, hFewer, -⟩ := lifetimes_exact sampleClock "reporting" 2280155990
  obtain ⟨claims, hClaims, -, -, hLifetime⟩ := hIssued hEnding
  have hNext := (lifetimes_exact sampleClock "reporting" 2280155991).2.1 (hBeyond _ (by decide))
  have hGreatest :=
    (lifetimes_exact sampleClock "reporting" 18446744073709551615).2.1 (hBeyond _ (by decide))
  have hNextText : Text.ofInt (2280155991 : Nat) = "2280155991" := by decide +kernel
  have hGreatestText : Text.ofInt (18446744073709551615 : Nat) = "18446744073709551615" := by
    decide +kernel
  rw [hNextText] at hNext
  rw [hGreatestText] at hGreatest
  exact ⟨⟨claims, hClaims, hLifetime, hFewer claims hClaims 24 (by decide)⟩, hNext, hGreatest⟩

end CampaignFetch

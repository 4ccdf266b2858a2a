import CampaignFetch.Proofs.TrimmedText
import CampaignFetch.Text.Integer

/-!
# Integers as texts

What is written for an integer is read back as this integer (`int64?_ofInt`), and nothing in it is
blank, so that it is never trimmed (`trim_ofInt`). `Digits`, `NatText` and `IntText` say which texts
write a number; these are the ones that are read (`nat?_eq_some_iff`, `int64?_eq_some_iff`).
-/

namespace CampaignFetch.Text

/-! ## Digits -/

theorem digit?_of_isDigit {c : Char} (h : c.isDigit = true) :
    digit? c = some (c.toNat - '0'.toNat) := by
  have hRange := Char.isDigit_iff_toNat.mp h
  have : '0' ≤ c ∧ c ≤ '9' := by
    simp only [Char.le_def, UInt32.le_iff_toNat_le]
    exact hRange
  simp [digit?, this]

theorem digitsFrom_eq_ofDigitChars {cs : List Char} (h : ∀ c ∈ cs, c.isDigit = true)
    (value : Nat) : digitsFrom value cs = some (Nat.ofDigitChars 10 cs value) := by
  induction cs generalizing value with
  | nil => simp [digitsFrom]
  | cons c cs ih =>
    simp only [digitsFrom, digit?_of_isDigit (h c List.mem_cons_self), Nat.ofDigitChars_cons,
      Nat.mul_comm 10]
    exact ih (fun d hd => h d (List.mem_cons_of_mem _ hd)) _

theorem not_isBlank_of_isDigit {c : Char} (h : c.isDigit = true) : isBlank c = false := by
  have hRange := Char.isDigit_iff_toNat.mp h
  have hLow : 48 ≤ c.toNat := hRange.1
  have hHigh : c.toNat ≤ 57 := hRange.2
  rw [Bool.eq_false_iff, ne_eq, isBlank_iff_of_ascii (by omega)]
  omega

theorem toLower_of_isDigit {c : Char} (h : c.isDigit = true) : c.toLower = c := by
  have hRange := Char.isDigit_iff_toNat.mp h
  have hNot : ¬ (c.val ≥ 'A'.val ∧ c.val ≤ 'Z'.val) := by
    rintro ⟨hLow, -⟩
    have hLow := UInt32.le_iff_toNat_le.mp hLow
    have hHigh : c.toNat ≤ 57 := hRange.2
    exact absurd (Nat.le_trans hLow hHigh) (by decide)
  exact dif_neg hNot

/-- Nothing blank stands before a digit. -/
theorem trimStart_of_isDigit {c : Char} (h : c.isDigit = true) (cs : List Char) :
    trimStart (c :: cs) = c :: cs := by
  simp [trimStart, not_isBlank_of_isDigit h]

theorem digits?_eq_digitsFrom {cs : List Char} (h : cs ≠ []) : digits? cs = digitsFrom 0 cs := by
  cases cs with
  | nil => exact absurd rfl h
  | cons c cs => rfl

theorem isDigit_toDigits (n : Nat) : ∀ c ∈ Nat.toDigits 10 n, c.isDigit = true :=
  fun _ hc => Nat.isDigit_of_mem_toDigits (by decide) (by decide) hc

theorem digits?_toDigits (n : Nat) : digits? (Nat.toDigits 10 n) = some n := by
  rw [digits?_eq_digitsFrom Nat.toDigits_ne_nil, digitsFrom_eq_ofDigitChars (isDigit_toDigits n),
    Nat.ofDigitChars_ten_toDigits]

/-- The characters are the decimal digits of a number, with any zeros in front. -/
structure Digits (cs : List Char) (n : Nat) : Prop where
  some_digit : cs ≠ []
  all_digits : ∀ c ∈ cs, c.isDigit = true
  value : Nat.ofDigitChars 10 cs 0 = n

theorem isDigit_of_digit? {c : Char} {n : Nat} (h : digit? c = some n) : c.isDigit = true := by
  unfold digit? at h
  split at h
  · rename_i hRange
    simp only [Char.le_def, UInt32.le_iff_toNat_le] at hRange
    exact Char.isDigit_iff_toNat.mpr hRange
  · cases h

theorem isDigit_of_digitsFrom {cs : List Char} {value n : Nat} (h : digitsFrom value cs = some n) :
    ∀ c ∈ cs, c.isDigit = true := by
  induction cs generalizing value with
  | nil => exact nofun
  | cons c cs ih =>
    simp only [digitsFrom, Option.bind_eq_bind, Option.bind_eq_some_iff] at h
    obtain ⟨d, hDigit, hRest⟩ := h
    intro x hx
    rcases List.mem_cons.mp hx with rfl | hx
    · exact isDigit_of_digit? hDigit
    · exact ih hRest x hx

theorem digits?_eq_some_iff {cs : List Char} {n : Nat} : digits? cs = some n ↔ Digits cs n := by
  constructor
  · intro h
    have hSome : cs ≠ [] := by
      rintro rfl
      cases h
    rw [digits?_eq_digitsFrom hSome] at h
    have hAll := isDigit_of_digitsFrom h
    rw [digitsFrom_eq_ofDigitChars hAll] at h
    exact ⟨hSome, hAll, Option.some.inj h⟩
  · rintro ⟨hSome, hAll, rfl⟩
    rw [digits?_eq_digitsFrom hSome, digitsFrom_eq_ofDigitChars hAll]

/-- The text writes a natural number: digits, with or without a plus sign in front. -/
def NatText (s : String) (n : Nat) : Prop :=
  ∃ digits, (s.toList = digits ∨ s.toList = '+' :: digits) ∧ Digits digits n

/-- The text writes an integer: a natural number, or digits behind a minus sign. -/
def IntText (s : String) (n : Int) : Prop :=
  (∃ m : Nat, NatText s m ∧ n = m) ∨
    ∃ digits m, s.toList = '-' :: digits ∧ Digits digits m ∧ n = -(m : Int)

/-- A sign is no digit. -/
theorem not_digits_cons {sign : Char} (h : sign.isDigit = false) {cs : List Char} {n : Nat} :
    ¬ Digits (sign :: cs) n := by
  intro hDigits
  rw [hDigits.all_digits sign List.mem_cons_self] at h
  cases h

theorem natText_of_plus {s : String} {cs : List Char} (h : s.toList = '+' :: cs) {n : Nat} :
    NatText s n ↔ Digits cs n := by
  constructor
  · rintro ⟨digits, hText | hText, hDigits⟩
    · rw [h] at hText
      exact absurd (hText ▸ hDigits) (not_digits_cons (by decide))
    · rw [h] at hText
      cases hText
      exact hDigits
  · intro hDigits
    exact ⟨cs, .inr h, hDigits⟩

theorem natText_of_not_plus {s : String} (h : ∀ cs, s.toList = '+' :: cs → False) {n : Nat} :
    NatText s n ↔ Digits s.toList n := by
  constructor
  · rintro ⟨digits, hText | hText, hDigits⟩
    · exact hText ▸ hDigits
    · exact absurd hText (h digits)
  · intro hDigits
    exact ⟨s.toList, .inl rfl, hDigits⟩

theorem nat?_eq_some_iff {bits n : Nat} {s : String} :
    nat? bits s = some n ↔ NatText s n ∧ n < Nat.pow 2 bits := by
  unfold nat?
  split
  · rename_i cs hText
    rw [Option.filter_eq_some_iff, digits?_eq_some_iff, natText_of_plus hText, decide_eq_true_iff]
  · rename_i hNotPlus
    rw [Option.filter_eq_some_iff, digits?_eq_some_iff, natText_of_not_plus hNotPlus,
      decide_eq_true_iff]

theorem intText_of_minus {s : String} {cs : List Char} (h : s.toList = '-' :: cs) {n : Int} :
    IntText s n ↔ ∃ m : Nat, Digits cs m ∧ -(m : Int) = n := by
  have hNotPlus : ∀ cs', s.toList = '+' :: cs' → False := by
    intro cs' hPlus
    rw [h] at hPlus
    cases hPlus
  constructor
  · rintro (⟨m, hm, -⟩ | ⟨digits, m, hMinus, hm, rfl⟩)
    · rw [natText_of_not_plus hNotPlus, h] at hm
      exact absurd hm (not_digits_cons (by decide))
    · rw [h] at hMinus
      cases hMinus
      exact ⟨m, hm, rfl⟩
  · rintro ⟨m, hm, rfl⟩
    exact .inr ⟨cs, m, h, hm, rfl⟩

theorem intText_of_not_minus {s : String} (h : ∀ cs, s.toList = '-' :: cs → False) {n : Int} :
    IntText s n ↔ ∃ m : Nat, NatText s m ∧ (m : Int) = n := by
  constructor
  · rintro (⟨m, hm, rfl⟩ | ⟨digits, m, hMinus, -⟩)
    · exact ⟨m, hm, rfl⟩
    · exact absurd hMinus (h digits)
  · rintro ⟨m, hm, rfl⟩
    exact .inl ⟨m, hm, rfl⟩

theorem int?_eq_some_iff {s : String} {n : Int} : int? s = some n ↔ IntText s n := by
  unfold int?
  split
  · rename_i cs hText
    rw [intText_of_minus hText]
    simp only [Option.map_eq_some_iff, Option.bind_eq_bind, Option.bind_eq_some_iff,
      Option.pure_def, Option.some.injEq, digits?_eq_some_iff]
    constructor
    · rintro ⟨-, ⟨m, hm, rfl⟩, rfl⟩
      exact ⟨m, hm, rfl⟩
    · rintro ⟨m, hm, rfl⟩
      exact ⟨m, ⟨m, hm, rfl⟩, rfl⟩
  · rename_i cs hText
    have hNotMinus : ∀ cs', s.toList = '-' :: cs' → False := by
      intro cs' hMinus
      rw [hText] at hMinus
      cases hMinus
    rw [intText_of_not_minus hNotMinus]
    simp only [Option.map_eq_some_iff, digits?_eq_some_iff, natText_of_plus hText,
      Int.ofNat_eq_natCast]
  · rename_i hNotMinus hNotPlus
    rw [intText_of_not_minus hNotMinus]
    simp only [Option.map_eq_some_iff, digits?_eq_some_iff, natText_of_not_plus hNotPlus,
      Int.ofNat_eq_natCast]

/-- An integer is written with signs and digits only. -/
theorem IntText.mem {s : String} {n : Int} (h : IntText s n) {c : Char} (hc : c ∈ s.toList) :
    c = '+' ∨ c = '-' ∨ c.isDigit = true := by
  rcases h with ⟨m, ⟨digits, hText | hText, hDigits⟩, -⟩ | ⟨digits, m, hText, hDigits, -⟩
  · exact .inr (.inr (hDigits.all_digits c (hText ▸ hc)))
  · rw [hText] at hc
    exact (List.mem_cons.mp hc).imp id fun hc => .inr (hDigits.all_digits c hc)
  · rw [hText] at hc
    exact .inr ((List.mem_cons.mp hc).imp id (hDigits.all_digits c))

theorem int64?_eq_some_iff {s : String} {n : Int} :
    int64? s = some n ↔ IntText s n ∧ fitsInt64 n = true := by
  rw [int64?, Option.filter_eq_some_iff, int?_eq_some_iff]

theorem bool?_eq_some_iff {s : String} {b : Bool} : bool? s = some b ↔ s = toString b := by
  unfold bool?
  by_cases hTrue : s = "true"
  · subst hTrue
    cases b <;> decide
  · by_cases hFalse : s = "false"
    · subst hFalse
      cases b <;> decide
    · cases b
      · simp [hTrue, hFalse, show toString false = "false" from rfl]
      · simp [hTrue, hFalse, show toString true = "true" from rfl]

/-! ## Integers -/

theorem int?_ofInt (n : Int) : int? (ofInt n) = some n := by
  cases n with
  | negSucc m =>
    simp only [ofInt, int?, String.toList_ofList, digits?_toDigits]
    rfl
  | ofNat m =>
    have hSign : ∀ c cs, Nat.toDigits 10 m = c :: cs → c.isDigit = true := fun c _ hText =>
      isDigit_toDigits m c (hText ▸ List.mem_cons_self)
    simp only [ofInt, int?, String.toList_ofList]
    split
    · rename_i hMinus
      exact absurd (hSign _ _ hMinus) (by decide)
    · rename_i hPlus
      exact absurd (hSign _ _ hPlus) (by decide)
    · simp [digits?_toDigits]

theorem ofInt_ne_empty (n : Int) : ofInt n ≠ "" := by
  intro hEmpty
  have hRead := int?_ofInt n
  rw [hEmpty] at hRead
  cases hRead

theorem int64?_ofInt {n : Int} (h : fitsInt64 n = true) : int64? (ofInt n) = some n := by
  simp [int64?, int?_ofInt, h]

theorem mem_ofInt {n : Int} {c : Char} (h : c ∈ (ofInt n).toList) :
    c = '-' ∨ c.isDigit = true := by
  cases n with
  | ofNat m => exact Or.inr (isDigit_toDigits m c (by simpa [ofInt] using h))
  | negSucc m =>
    rw [ofInt, String.toList_ofList] at h
    exact (List.mem_cons.mp h).imp id (isDigit_toDigits _ c)

theorem not_isBlank_of_mem_ofInt {n : Int} {c : Char} (h : c ∈ (ofInt n).toList) :
    isBlank c = false := by
  rcases mem_ofInt h with rfl | hDigit
  · decide
  · exact not_isBlank_of_isDigit hDigit

theorem trim_ofInt (n : Int) : trim (ofInt n) = ofInt n :=
  (trimmed_of_forall fun _ => not_isBlank_of_mem_ofInt).trim_eq

end CampaignFetch.Text

import CampaignFetch.Json.Printer
import CampaignFetch.Json.Skip
import CampaignFetch.Proofs.IntegerText
import CampaignFetch.Proofs.Utf8Text
import Mathlib.Algebra.Group.Nat.Defs

/-!
# Strings and integers read back

The two tokens that carry data are read as what they were written for: a string up to its closing
quote, whatever characters it has (`readString_quote`), and an integer of sixty-four bits up to a
byte that does not go on a number (`readNumber_ofInt`).

`TakesBytes` is said of a part of a string: reading takes it from the front and gives its content.
-/

namespace CampaignFetch.Json

open Text

/-! ## Escapes -/

theorem hexUnit?_control : ∀ n : Fin 32,
    hexUnit? 0x30 0x30 (hexDigit (n / 16)).toNat.toUInt8 (hexDigit (n % 16)).toNat.toUInt8 =
      some n.val := by
  decide

theorem readEscape_control {n : Nat} (h : n < 0x20) (rest : Bytes) :
    readEscape (Ascii.letterU :: 0x30 :: 0x30 :: (hexDigit (n / 16)).toNat.toUInt8 ::
      (hexDigit (n % 16)).toNat.toUInt8 :: rest) = .ok (encodeChar (Char.ofNat n), rest) := by
  have hUnit := hexUnit?_control ⟨n, h⟩
  have hLow : n < 0xD800 := by omega
  have hHigh : ¬ (0xDC00 ≤ n ∧ n ≤ 0xDFFF) := by omega
  simp [readEscape, readCodePoint, readHexUnit, hUnit, hLow, hHigh, bind, Except.bind, pure,
    Except.pure]

theorem hexDigit_lt : ∀ n : Fin 16, (hexDigit n).toNat < 0x80 := by decide

theorem encodeChar_hexDigit {n : Nat} (h : n < 16) :
    encodeChar (hexDigit n) = [(hexDigit n).toNat.toUInt8] :=
  encodeChar_ascii (hexDigit_lt ⟨n, h⟩)

/-! ## Steps -/

/-- Reading the bytes of a string takes `taken` from the front, which stand for `content`. -/
def TakesBytes (taken content : Bytes) : Prop :=
  ∀ bound more, taken.length ≤ bound.length → ∃ bound' : Bytes,
    bound.length ≤ bound'.length + taken.length ∧
      readStringBytes bound (taken ++ more) =
        (readStringBytes bound' more).map fun (back, rest) => (content ++ back, rest)

theorem TakesBytes.nil : TakesBytes [] [] := by
  intro bound more _
  refine ⟨bound, by simp, ?_⟩
  cases h : readStringBytes bound more <;> simp [Except.map, h]

theorem TakesBytes.append {front back content content' : Bytes} (h : TakesBytes front content)
    (h' : TakesBytes back content') : TakesBytes (front ++ back) (content ++ content') := by
  intro bound more hBound
  rw [List.length_append] at hBound
  obtain ⟨middle, hMiddle, hFront⟩ := h bound (back ++ more) (by omega)
  obtain ⟨last, hLast, hBack⟩ := h' middle more (by omega)
  refine ⟨last, by rw [List.length_append]; omega, ?_⟩
  rw [List.append_assoc, hFront, hBack]
  cases readStringBytes last more <;> simp [Except.map]

theorem takesBytes_byte {b : UInt8} (hQuote : b ≠ Ascii.quote) (hEscape : b ≠ Ascii.backslash)
    (hControl : ¬ b < Ascii.space) : TakesBytes [b] [b] := by
  intro bound more hBound
  cases bound with
  | nil => simp at hBound
  | cons x bound =>
    refine ⟨bound, by simp, ?_⟩
    simp only [List.cons_append, List.nil_append, readStringBytes, if_neg hQuote, if_neg hEscape,
      if_neg hControl]
    cases readStringBytes bound more <;> rfl

theorem takesBytes_escape {escape content : Bytes}
    (h : ∀ rest, readEscape (escape ++ rest) = .ok (content, rest)) :
    TakesBytes (Ascii.backslash :: escape) content := by
  intro bound more hBound
  cases bound with
  | nil => simp at hBound
  | cons x bound =>
    refine ⟨bound, by simp, ?_⟩
    have hQuote : Ascii.backslash ≠ Ascii.quote := by decide
    simp only [List.cons_append, readStringBytes, if_neg hQuote, if_true, h]
    change (readStringBytes bound more >>= fun x => _) = _
    cases readStringBytes bound more <;> rfl

theorem takesBytes_plain {bs : Bytes} (h : ∀ b ∈ bs, 0x80 ≤ b.toNat) : TakesBytes bs bs := by
  induction bs with
  | nil => exact .nil
  | cons b bs ih =>
    have hb := h b List.mem_cons_self
    have hNe : ∀ x : UInt8, x.toNat < 0x80 → b ≠ x := by
      rintro x hx rfl
      omega
    refine (takesBytes_byte (hNe _ (by decide)) (hNe _ (by decide)) ?_).append
      (ih fun x hx => h x (List.mem_cons_of_mem _ hx))
    rw [UInt8.lt_iff_toNat_lt]
    exact Nat.not_lt.mpr (Nat.le_trans (by decide) hb)

theorem takesBytes_letter {letter b : UInt8} (hLetter : letter ≠ Ascii.letterU)
    (h : simpleEscape? letter = some b) : TakesBytes [Ascii.backslash, letter] [b] :=
  takesBytes_escape fun rest => by
    simp only [List.cons_append, List.nil_append, readEscape, if_neg hLetter, h]

theorem takesBytes_control {c : Char} (h : c.toNat < 0x20) :
    TakesBytes (encodeChars ['\\', 'u', '0', '0', hexDigit (c.toNat / 16), hexDigit (c.toNat % 16)])
      (encodeChar c) := by
  have hText : encodeChars ['\\', 'u', '0', '0', hexDigit (c.toNat / 16),
      hexDigit (c.toNat % 16)] = [Ascii.backslash, Ascii.letterU, 0x30, 0x30,
      (hexDigit (c.toNat / 16)).toNat.toUInt8, (hexDigit (c.toNat % 16)).toNat.toUInt8] := by
    simp only [encodeChars_cons, encodeChars_nil,
      encodeChar_hexDigit (by omega : c.toNat / 16 < 16),
      encodeChar_hexDigit (by omega : c.toNat % 16 < 16)]
    rfl
  rw [hText]
  refine takesBytes_escape fun rest => ?_
  rw [List.cons_append, List.cons_append, List.cons_append, List.cons_append, List.cons_append,
    List.nil_append, readEscape_control h, c.ofNat_toNat]

theorem takesBytes_unescaped {c : Char} (hQuote : c ≠ '"') (hBackslash : c ≠ '\\')
    (hControl : ¬ c.toNat < 0x20) : TakesBytes (encodeChar c) (encodeChar c) := by
  by_cases hAscii : c.toNat < 0x80
  · have hByte : c.toNat < 256 := by omega
    have hNe : ∀ d : Char, d.toNat < 0x80 → c ≠ d → c.toNat.toUInt8 ≠ d.toNat.toUInt8 := by
      intro d hd hNe hEq
      have hSame := (toUInt8_eq_iff hByte).mp hEq
      rw [toNat_toUInt8 (by omega)] at hSame
      exact hNe (Char.toNat_inj.mp hSame)
    rw [encodeChar_ascii hAscii]
    refine takesBytes_byte (hNe '"' (by decide) hQuote) (hNe '\\' (by decide) hBackslash) ?_
    rw [toUInt8_lt_iff hByte]
    exact hControl
  · exact takesBytes_plain fun b hb => le_of_mem_encodeChar (Nat.not_lt.mp hAscii) hb

/-- A character of a string is read back from how it is written. -/
theorem takesBytes_escaped (c : Char) : TakesBytes (encodeChars (escaped c)) (encodeChar c) := by
  unfold escaped
  split
  · exact takesBytes_letter (by decide) (by decide : simpleEscape? Ascii.quote = _)
  · exact takesBytes_letter (by decide) (by decide : simpleEscape? Ascii.backslash = _)
  · exact takesBytes_letter (by decide) (by decide : simpleEscape? Ascii.letterB = _)
  · exact takesBytes_letter (by decide) (by decide : simpleEscape? Ascii.letterF = _)
  · exact takesBytes_letter (by decide) (by decide : simpleEscape? Ascii.letterN = _)
  · exact takesBytes_letter (by decide) (by decide : simpleEscape? Ascii.letterR = _)
  · exact takesBytes_letter (by decide) (by decide : simpleEscape? Ascii.letterT = _)
  · split
    · rename_i hControl
      exact takesBytes_control hControl
    · rename_i hQuote hBackslash _ _ _ _ _ hControl
      rw [encodeChars_cons, encodeChars_nil, List.append_nil]
      exact takesBytes_unescaped hQuote hBackslash hControl

/-! ## Strings -/

theorem takesBytes_chars (cs : List Char) :
    TakesBytes (encodeChars (cs.flatMap escaped)) (encodeChars cs) := by
  induction cs with
  | nil => exact .nil
  | cons c cs ih =>
    rw [List.flatMap_cons, encodeChars_append, encodeChars_cons]
    exact (takesBytes_escaped c).append ih

/-- A string is read back from what is written for it, up to its closing quote. -/
theorem readString_quote (s : String) (rest : Bytes) :
    readString (encodeChars (s.toList.flatMap escaped) ++ Ascii.quote :: rest) = .ok (s, rest) := by
  obtain ⟨bound, hBound, hRead⟩ := takesBytes_chars s.toList
    (encodeChars (s.toList.flatMap escaped) ++ Ascii.quote :: rest) (Ascii.quote :: rest)
    (by simp)
  cases bound with
  | nil =>
    simp only [List.length_append, List.length_cons, List.length_nil] at hBound
    omega
  | cons x bound =>
    have hDecode := decode_encode s
    rw [encode] at hDecode
    simp only [readString, hRead, readStringBytes, if_true, Except.map, List.append_nil, bind,
      Except.bind, hDecode]
    rfl

/-! ## Digits -/

/-- What follows does not go on a number. -/
def Delimits (rest : Bytes) : Prop :=
  ∀ b ∈ rest.head?, Ascii.isDigit b = false ∧ b ≠ Ascii.dot ∧ isExponentMark b = false

theorem delimits_nil : Delimits [] := by
  intro b hb
  cases hb

theorem delimits_cons {b : UInt8} (hDigit : Ascii.isDigit b = false) (hDot : b ≠ Ascii.dot)
    (hMark : isExponentMark b = false) (rest : Bytes) : Delimits (b :: rest) := by
  intro b' hb'
  cases hb'
  exact ⟨hDigit, hDot, hMark⟩

theorem toNat_of_isDigit {c : Char} (h : c.isDigit = true) : 48 ≤ c.toNat ∧ c.toNat ≤ 57 :=
  Char.isDigit_iff_toNat.mp h

theorem isDigit_digitByte {c : Char} (h : c.isDigit = true) :
    Ascii.isDigit c.toNat.toUInt8 = true := by
  have hRange := toNat_of_isDigit h
  have hByte : c.toNat < 256 := by omega
  simp only [Ascii.isDigit, le_toUInt8_iff hByte, toUInt8_le_iff hByte, UInt8.reduceToNat,
    Bool.and_eq_true, decide_eq_true_eq]
  exact hRange

theorem digitValue_digitByte {c : Char} (h : c.isDigit = true) :
    Ascii.digitValue c.toNat.toUInt8 = c.toNat - '0'.toNat := by
  have hRange := toNat_of_isDigit h
  rw [Ascii.digitValue, toNat_toUInt8 (by omega)]
  rfl

theorem encodeChar_digit {c : Char} (h : c.isDigit = true) :
    encodeChar c = [c.toNat.toUInt8] :=
  encodeChar_ascii (by have := toNat_of_isDigit h; omega)

theorem spanDigits_digits {cs : List Char} (hDigits : ∀ c ∈ cs, c.isDigit = true) {rest : Bytes}
    (hRest : Delimits rest) :
    spanDigits (encodeChars cs ++ rest) = (cs.map fun c => c.toNat - '0'.toNat, rest) := by
  induction cs with
  | nil =>
    cases rest with
    | nil => rfl
    | cons b rest => simp [encodeChars_nil, spanDigits, (hRest b rfl).1]
  | cons c cs ih =>
    have hDigit := hDigits c List.mem_cons_self
    have ih := ih fun d hd => hDigits d (List.mem_cons_of_mem _ hd)
    simp only [spanDigits, Prod.mk.injEq] at ih
    simp [encodeChars_cons, encodeChar_digit hDigit, spanDigits, isDigit_digitByte hDigit,
      digitValue_digitByte hDigit, ih]

theorem le_ofDigitChars (cs : List Char) (n : Nat) : n ≤ Nat.ofDigitChars 10 cs n := by
  rw [Nat.ofDigitChars_eq_ofDigitChars_zero]
  have hPow : 0 < 10 ^ cs.length := Nat.pow_pos (by decide)
  calc n ≤ 10 ^ cs.length * n := Nat.le_mul_of_pos_left n hPow
    _ ≤ _ := Nat.le_add_right _ _

/-- All digits of a number of sixty-four bits are taken. -/
theorem appendDigits_digits {cs : List Char} {n : Nat}
    (h : Nat.ofDigitChars 10 cs n < 2 ^ 64) :
    appendDigits n (cs.map fun c => c.toNat - '0'.toNat) =
      (Nat.ofDigitChars 10 cs n, cs.length) := by
  induction cs generalizing n with
  | nil => rfl
  | cons c cs ih =>
    rw [Nat.ofDigitChars_cons] at h ⊢
    have hFits : n * 10 + (c.toNat - '0'.toNat) < Nat.pow 2 64 := by
      have hLe := le_ofDigitChars cs (10 * n + (c.toNat - '0'.toNat))
      have hMul := Nat.mul_comm n 10
      have hPow : Nat.pow 2 64 = 2 ^ 64 := rfl
      omega
    rw [Nat.mul_comm 10 n] at h ⊢
    rw [List.map_cons, appendDigits, if_pos hFits, ih h]
    rfl

theorem head?_toDigits {n : Nat} (h : n ≠ 0) : (Nat.toDigits 10 n).head? ≠ some '0' := by
  induction n using Nat.strongRecOn with
  | ind n ih =>
    by_cases hSmall : n < 10
    · rw [Nat.toDigits_of_lt_base hSmall]
      have hDigit : ∀ m : Fin 10, m.val ≠ 0 → m.val.digitChar ≠ '0' := by decide
      exact fun hEq => hDigit ⟨n, hSmall⟩ h (Option.some.inj hEq)
    · have hRest := ih (n / 10) (by omega) (by omega)
      rw [Nat.toDigits_of_base_le (by decide) (by omega), List.head?_append]
      cases hDigits : (Nat.toDigits 10 (n / 10)).head? with
      | none => exact absurd (List.head?_eq_none_iff.mp hDigits) Nat.toDigits_ne_nil
      | some c => simpa [hDigits] using hRest

theorem eq_nil_of_toDigits_eq_zero_cons {n : Nat} {cs : List Char}
    (h : Nat.toDigits 10 n = '0' :: cs) : cs = [] := by
  by_cases hZero : n = 0
  · rw [hZero, Nat.toDigits_zero] at h
    cases h
    rfl
  · exact absurd (by rw [h]; rfl) (head?_toDigits hZero)

/-- A number that is written does not begin with a zero before a digit. -/
theorem not_zero_before_digit {n : Nat} {c : Char} {cs : List Char}
    (hText : Nat.toDigits 10 n = c :: cs) {rest : Bytes} (hRest : Delimits rest) :
    ¬ (c.toNat.toUInt8 = Ascii.zero ∧
      (encodeChars cs ++ rest).head?.any Ascii.isDigit = true) := by
  rintro ⟨hByte, hNext⟩
  have hRange := toNat_of_isDigit (isDigit_toDigits n c (hText ▸ List.mem_cons_self))
  have hZero : c = '0' := Char.toNat_inj.mp ((toUInt8_eq_iff (by omega)).mp hByte)
  rw [hZero] at hText
  rw [eq_nil_of_toDigits_eq_zero_cons hText, encodeChars_nil, List.nil_append] at hNext
  cases rest with
  | nil => cases hNext
  | cons b rest => simp [(hRest b rfl).1] at hNext

/-! ## Numbers -/

theorem readNumber_toDigits (negative : Bool) {n : Nat} (h : n < 2 ^ 64) {rest : Bytes}
    (hRest : Delimits rest) :
    readNumber negative (encodeChars (Nat.toDigits 10 n) ++ rest) =
      wholeNumber negative n rest := by
  have hDigits := isDigit_toDigits n
  have hSpan := spanDigits_digits hDigits hRest
  have hAppend := @appendDigits_digits (Nat.toDigits 10 n) 0
    (by rw [Nat.ofDigitChars_ten_toDigits]; exact h)
  rw [Nat.ofDigitChars_ten_toDigits] at hAppend
  cases hText : Nat.toDigits 10 n with
  | nil => exact absurd hText Nat.toDigits_ne_nil
  | cons c cs =>
    rw [hText] at hSpan hAppend hDigits
    have hDigit := hDigits c List.mem_cons_self
    rw [encodeChars_cons, encodeChar_digit hDigit, List.append_assoc] at hSpan ⊢
    simp only [List.cons_append, List.nil_append] at hSpan ⊢
    rw [readNumber, if_neg (by simp [isDigit_digitByte hDigit]),
      if_neg (not_zero_before_digit hText hRest)]
    simp only [hSpan, hAppend, List.length_map, Nat.sub_self]
    cases rest with
    | nil => rfl
    | cons b rest =>
      -- what delimits the number is neither its point nor its exponent
      obtain ⟨-, hDot, hMark⟩ := hRest b rfl
      split
      · rename_i hEq
        cases hEq
        exact absurd rfl hDot
      · rename_i hEq
        cases hEq
        simp [hMark]
      · rename_i hEq
        cases hEq

theorem skipAfterFraction_delimited {rest : Bytes} (h : Delimits rest) :
    skipAfterFraction rest = .ok rest := by
  cases rest with
  | nil => rfl
  | cons b rest =>
    obtain ⟨-, -, hMark⟩ := h b rfl
    simp [skipAfterFraction, hMark]

theorem skipNumber_toDigits (n : Nat) {rest : Bytes} (hRest : Delimits rest) :
    skipNumber (encodeChars (Nat.toDigits 10 n) ++ rest) = .ok rest := by
  have hDigits := isDigit_toDigits n
  cases hText : Nat.toDigits 10 n with
  | nil => exact absurd hText Nat.toDigits_ne_nil
  | cons c cs =>
    rw [hText] at hDigits
    have hDigit := isDigit_digitByte (hDigits c List.mem_cons_self)
    have hTail : ∀ d ∈ cs, d.isDigit = true := fun d hd => hDigits d (List.mem_cons_of_mem _ hd)
    have hSpan : (encodeChars cs ++ rest).dropWhile Ascii.isDigit = rest :=
      congrArg Prod.snd (spanDigits_digits hTail hRest)
    rw [encodeChars_cons, encodeChar_digit (hDigits c List.mem_cons_self), List.append_assoc,
      List.cons_append, List.nil_append, skipNumber, if_neg (by simp [hDigit]),
      if_neg (not_zero_before_digit hText hRest), hSpan]
    split
    · exact absurd rfl (hRest _ rfl).2.1
    · exact skipAfterFraction_delimited hRest

theorem wholeNumber_nonneg (n : Nat) (rest : Bytes) :
    wholeNumber false n rest = .ok (.int n, rest) := rfl

theorem wholeNumber_negative {n : Nat} (hPos : 0 < n) (hMax : n ≤ 2 ^ 63) (rest : Bytes) :
    wholeNumber true n rest = .ok (.int (-(n : Int)), rest) := by
  have hPow : Nat.pow 2 63 = 2 ^ 63 := rfl
  simp only [wholeNumber, Bool.not_true, Bool.false_eq_true, if_false]
  rw [if_neg (by omega)]

theorem encodeChars_toDigits (n : Nat) :
    ∃ b bs, encodeChars (Nat.toDigits 10 n) = b :: bs ∧ Ascii.isDigit b = true := by
  have hDigits := isDigit_toDigits n
  cases hText : Nat.toDigits 10 n with
  | nil => exact absurd hText Nat.toDigits_ne_nil
  | cons c cs =>
    have hDigit := hDigits c (hText ▸ List.mem_cons_self)
    rw [encodeChars_cons, encodeChar_digit hDigit]
    exact ⟨_, _, rfl, isDigit_digitByte hDigit⟩

theorem encode_ofInt_ofNat (m : Nat) :
    encode (ofInt (.ofNat m)) = encodeChars (Nat.toDigits 10 m) := by
  rw [encode, ofInt, String.toList_ofList]

theorem encode_ofInt_negSucc (m : Nat) :
    encode (ofInt (.negSucc m)) = Ascii.minus :: encodeChars (Nat.toDigits 10 (m + 1)) := by
  rw [encode, ofInt, String.toList_ofList, encodeChars_cons]
  rfl

theorem fitsInt64_iff {n : Int} : fitsInt64 n = true ↔ int64Min ≤ n ∧ n ≤ int64Max := by
  rw [fitsInt64, Bool.and_eq_true, decide_eq_true_eq, decide_eq_true_eq]

/-- The bytes of an integer of sixty-four bits begin with a minus sign or a digit, and are read as
the integer from there on. -/
theorem readNumber_ofInt {n : Int} (h : fitsInt64 n = true) {rest : Bytes}
    (hRest : Delimits rest) :
    (∃ bs, encode (ofInt n) = Ascii.minus :: bs ∧
      readNumber true (bs ++ rest) = .ok (.int n, rest)) ∨
    ∃ b bs, encode (ofInt n) = b :: bs ∧ Ascii.isDigit b = true ∧
      readNumber false (b :: bs ++ rest) = .ok (.int n, rest) := by
  obtain ⟨hMin, hMax⟩ := fitsInt64_iff.mp h
  simp only [int64Min, int64Max] at hMin hMax
  cases n with
  | ofNat m =>
    have hRead := readNumber_toDigits false (n := m) (by simp at hMax; omega) hRest
    obtain ⟨b, bs, hBytes, hDigit⟩ := encodeChars_toDigits m
    rw [wholeNumber_nonneg, hBytes] at hRead
    exact .inr ⟨b, bs, (encode_ofInt_ofNat m).trans hBytes, hDigit, hRead⟩
  | negSucc m =>
    have hRead := readNumber_toDigits true (n := m + 1) (by omega) hRest
    rw [wholeNumber_negative (Nat.succ_pos m) (by omega)] at hRead
    exact .inl ⟨_, encode_ofInt_negSucc m, hRead⟩

end CampaignFetch.Json

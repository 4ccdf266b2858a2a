import CampaignFetch.Proofs.Results
import CampaignFetch.Proofs.Utf8Text
import CampaignFetch.Text.Base64

/-!
# Base64 there and back

What is written for bytes is read as these bytes, whatever their number leaves when it is divided by
three (`decode_encode`), and it consists of visible ASCII characters without points
(`range_of_mem_encode`).
-/

namespace CampaignFetch.Text.Base64

/-! ## Symbols -/

theorem value?_symbol_fin : ∀ n : Fin 64, value? (symbol n) = some n.val := by decide

theorem value?_symbol {n : Nat} (h : n < 64) : value? (symbol n) = some n :=
  value?_symbol_fin ⟨n, h⟩

theorem valueAt_symbol (offset : Nat) {n : Nat} (h : n < 64) :
    valueAt offset (symbol n) = .ok n := by
  rw [valueAt, value?_symbol h]

/-- Symbols are visible characters, neither points nor padding. -/
theorem range_of_value? {b : UInt8} {n : Nat} (h : value? b = some n) :
    0x2D ≤ b.toNat ∧ b.toNat ≤ 0x7A ∧ b.toNat ≠ 0x2E ∧ b.toNat ≠ 0x3D := by
  unfold value? at h
  dsimp only at h
  repeat' split at h
  any_goals omega
  cases h

theorem symbol_ne_pad {n : Nat} (h : n < 64) : symbol n ≠ pad := by
  intro hPad
  obtain ⟨-, -, -, hNe⟩ := range_of_value? (value?_symbol h)
  exact hNe (congrArg UInt8.toNat hPad)

theorem mem_encode {bs : Bytes} {s : UInt8} (h : s ∈ encode bs) : ∃ n < 64, s = symbol n := by
  induction bs using encode.induct with
  | case1 a b c rest ih =>
    have hA := a.toNat_lt
    have hB := b.toNat_lt
    have hC := c.toNat_lt
    simp only [encode, List.mem_cons] at h
    rcases h with h | h | h | h | h
    · exact ⟨_, by omega, h⟩
    · exact ⟨_, by omega, h⟩
    · exact ⟨_, by omega, h⟩
    · exact ⟨_, by omega, h⟩
    · exact ih h
  | case2 a b =>
    have hA := a.toNat_lt
    have hB := b.toNat_lt
    simp only [encode, List.mem_cons, List.not_mem_nil, or_false] at h
    rcases h with h | h | h
    · exact ⟨_, by omega, h⟩
    · exact ⟨_, by omega, h⟩
    · exact ⟨_, by omega, h⟩
  | case3 a =>
    have hA := a.toNat_lt
    simp only [encode, List.mem_cons, List.not_mem_nil, or_false] at h
    rcases h with h | h
    · exact ⟨_, by omega, h⟩
    · exact ⟨_, by omega, h⟩
  | case4 => cases h

/-- What is written consists of visible ASCII characters without points. -/
theorem range_of_mem_encode {bs : Bytes} {s : UInt8} (h : s ∈ encode bs) :
    0x2D ≤ s.toNat ∧ s.toNat ≤ 0x7A ∧ s.toNat ≠ 0x2E := by
  obtain ⟨n, hn, rfl⟩ := mem_encode h
  obtain ⟨hLow, hHigh, hDot, -⟩ := range_of_value? (value?_symbol hn)
  exact ⟨hLow, hHigh, hDot⟩

/-! ## The last quad -/

theorem lastValues_symbols {ns : List Nat} (h : ∀ n ∈ ns, n < 64) (start index : Nat) :
    lastValues start index none (ns.map symbol) = .ok (ns, false) := by
  induction ns generalizing index with
  | nil => rfl
  | cons n ns ih =>
    have hn := h n List.mem_cons_self
    have ih := ih (fun m hm => h m (List.mem_cons_of_mem _ hm)) (index + 1)
    rw [List.map_cons, lastValues, if_neg (symbol_ne_pad hn)]
    simp only [valueAt_symbol _ hn, ih, bind, Except.bind]
    rfl

section

variable (start : Nat) {a b c d : Nat} (ha : a < 64) (hb : b < 64)

include ha hb

theorem decodeLast_two (hBits : b % 16 = 0) :
    decodeLast start [symbol a, symbol b] = .ok [(a * 4 + b / 16).toUInt8] := by
  have hValues : lastValues start 0 none [symbol a, symbol b] = .ok ([a, b], false) :=
    @lastValues_symbols [a, b] (by simp [ha, hb]) start 0
  rw [decodeLast, hValues, ok_bind]
  simp only [Bool.false_eq_true, if_false, hBits, ne_eq, not_true_eq_false]

variable (hc : c < 64)

include hc

theorem decodeLast_three (hBits : c % 4 = 0) :
    decodeLast start [symbol a, symbol b, symbol c] =
      .ok [(a * 4 + b / 16).toUInt8, (b % 16 * 16 + c / 4).toUInt8] := by
  have hValues : lastValues start 0 none [symbol a, symbol b, symbol c] = .ok ([a, b, c], false) :=
    @lastValues_symbols [a, b, c] (by simp [ha, hb, hc]) start 0
  rw [decodeLast, hValues, ok_bind]
  simp only [Bool.false_eq_true, if_false, hBits, ne_eq, not_true_eq_false]

/-- Four symbols are read alike at the end and in front of others. -/
theorem decodeFrom_four (hd : d < 64) {symbols bs : Bytes}
    (hRest : symbols = [] ∧ bs = [] ∨ symbols ≠ [] ∧ decodeFrom (start + 4) symbols = .ok bs) :
    decodeFrom start (symbol a :: symbol b :: symbol c :: symbol d :: symbols) =
      .ok ((a * 4 + b / 16).toUInt8 :: (b % 16 * 16 + c / 4).toUInt8 ::
        (c % 4 * 64 + d).toUInt8 :: bs) := by
  rcases hRest with ⟨rfl, rfl⟩ | ⟨hNonempty, hRest⟩
  · have hValues : lastValues start 0 none [symbol a, symbol b, symbol c, symbol d] =
        .ok ([a, b, c, d], false) :=
      @lastValues_symbols [a, b, c, d] (by simp [ha, hb, hc, hd]) start 0
    rw [decodeFrom, decodeLast, hValues]
    · rfl
    · simp
  · obtain ⟨s, rest, rfl⟩ := List.exists_cons_of_ne_nil hNonempty
    rw [decodeFrom, valueAt_symbol _ ha, valueAt_symbol _ hb, valueAt_symbol _ hc,
      valueAt_symbol _ hd, hRest]
    rfl

end

/-! ## Texts -/

theorem toUInt8_eq {n : Nat} {a : UInt8} (h : n = a.toNat) : n.toUInt8 = a :=
  (toUInt8_eq_iff (h ▸ a.toNat_lt)).mpr h

theorem encode_ne_nil {bs : Bytes} (h : bs ≠ []) : encode bs ≠ [] := by
  fun_cases encode bs with
  | case4 => exact absurd rfl h
  | _ => exact List.cons_ne_nil _ _

theorem decodeFrom_encode (start : Nat) (bs : Bytes) : decodeFrom start (encode bs) = .ok bs := by
  induction bs using encode.induct generalizing start with
  | case1 a b c rest ih =>
    have hA := a.toNat_lt
    have hB := b.toNat_lt
    have hC := c.toNat_lt
    have hRest : encode rest = [] ∧ rest = [] ∨
        encode rest ≠ [] ∧ decodeFrom (start + 4) (encode rest) = .ok rest := by
      by_cases hEmpty : rest = []
      · -- the last quad is left to `decodeLast`, full as it is
        subst hEmpty
        exact .inl ⟨rfl, rfl⟩
      · exact .inr ⟨encode_ne_nil hEmpty, ih _⟩
    rw [encode, decodeFrom_four _ (by omega) (by omega) (by omega) (by omega) hRest,
      toUInt8_eq (a := a) (by omega), toUInt8_eq (a := b) (by omega),
      toUInt8_eq (a := c) (by omega)]
  | case2 a b =>
    have hA := a.toNat_lt
    have hB := b.toNat_lt
    rw [encode, decodeFrom, decodeLast_three _ (by omega) (by omega) (by omega) (by omega),
      toUInt8_eq (a := a) (by omega), toUInt8_eq (a := b) (by omega)]
    simp
  | case3 a =>
    have hA := a.toNat_lt
    rw [encode, decodeFrom, decodeLast_two _ (by omega) (by omega) (by omega),
      toUInt8_eq (a := a) (by omega)]
    simp
  | case4 => rfl

theorem length_encode (bs : Bytes) : (encode bs).length % 4 ≠ 1 := by
  induction bs using encode.induct with
  | case1 a b c rest ih =>
    simp only [encode, List.length_cons]
    omega
  | case2 a b => simp [encode]
  | case3 a => simp [encode]
  | case4 => simp [encode]

/-- Every byte string is read back from its symbols. -/
theorem decode_encode (bs : Bytes) : decode (encode bs) = .ok bs := by
  rw [decode, strayLast?, if_neg (length_encode bs)]
  exact decodeFrom_encode 0 bs

end CampaignFetch.Text.Base64

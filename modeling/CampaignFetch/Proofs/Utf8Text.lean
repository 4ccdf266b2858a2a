import CampaignFetch.Text.Utf8

/-!
# UTF-8 there and back

What is written for a text is read as this text.

* `leadShape_two`, `leadShape_three`, `leadShape_four`: a first byte announces a shape that the
  second byte fits.
* `decodeChar_encodeChar`: a character is taken from the front of any bytes that begin with it.
* `decode_encode`: the whole text.
* `encode_decodeLossy_ascii`: any bytes of ASCII are those of a text.
-/

namespace CampaignFetch.Text

/-! ## Bytes as numbers -/

section

variable {n : Nat} (h : n < 256) {b : UInt8}

include h

theorem toNat_toUInt8 : n.toUInt8.toNat = n := by
  simp only [Nat.toUInt8, UInt8.toNat_ofNat']
  omega

theorem toUInt8_lt_iff : n.toUInt8 < b ↔ n < b.toNat := by
  rw [UInt8.lt_iff_toNat_lt, toNat_toUInt8 h]

theorem lt_toUInt8_iff : b < n.toUInt8 ↔ b.toNat < n := by
  rw [UInt8.lt_iff_toNat_lt, toNat_toUInt8 h]

theorem toUInt8_le_iff : n.toUInt8 ≤ b ↔ n ≤ b.toNat := by
  rw [UInt8.le_iff_toNat_le, toNat_toUInt8 h]

theorem le_toUInt8_iff : b ≤ n.toUInt8 ↔ b.toNat ≤ n := by
  rw [UInt8.le_iff_toNat_le, toNat_toUInt8 h]

theorem toUInt8_eq_iff : n.toUInt8 = b ↔ n = b.toNat := by
  rw [← UInt8.toNat_inj, toNat_toUInt8 h]

end

theorem isContinuation_payload (n : Nat) : isContinuation (0x80 + n % 0x40).toUInt8 = true := by
  have hByte : 0x80 + n % 0x40 < 256 := by omega
  have hMod : n % 0x40 < 0x40 := Nat.mod_lt _ (by decide)
  simp only [isContinuation, le_toUInt8_iff hByte, toUInt8_le_iff hByte, Bool.and_eq_true,
    decide_eq_true_eq, UInt8.reduceToNat]
  omega

theorem payload_continuation (n : Nat) : payload (0x80 + n % 0x40).toUInt8 = n % 0x40 := by
  rw [payload, toNat_toUInt8 (by omega)]
  omega

/-! ## Leading bytes -/

theorem leadShape_two {n : Nat} (hLow : 0xC2 ≤ n) (hHigh : n < 0xE0) :
    leadShape n.toUInt8 = some ⟨2, 0x80, 0xBF⟩ := by
  have hByte : n < 256 := by omega
  simp only [leadShape, toUInt8_lt_iff hByte, UInt8.reduceToNat, Nat.not_lt.mpr hLow, hHigh,
    if_true, if_false]

/-- The second byte of a character of three bytes is one that its first byte allows. -/
theorem leadShape_three {n : Nat} (hLow : 0x800 ≤ n) (hHigh : n < 0x10000)
    (hScalar : n < 0xD800 ∨ 0xDFFF < n) :
    ∃ low high : UInt8, leadShape (0xE0 + n / 0x1000).toUInt8 = some ⟨3, low, high⟩ ∧
      low.toNat ≤ 0x80 + n / 0x40 % 0x40 ∧ 0x80 + n / 0x40 % 0x40 ≤ high.toNat := by
  have hByte : 0xE0 + n / 0x1000 < 256 := by omega
  simp only [leadShape, toUInt8_lt_iff hByte, toUInt8_eq_iff hByte, UInt8.reduceToNat]
  rw [if_neg (by omega), if_neg (by omega)]
  split
  · exact ⟨_, _, rfl, by simp; omega, by simp; omega⟩
  · split
    · exact ⟨_, _, rfl, by simp, by simp; omega⟩
    · rw [if_pos (by omega)]
      exact ⟨_, _, rfl, by simp, by simp; omega⟩

/-- The second byte of a character of four bytes is one that its first byte allows. -/
theorem leadShape_four {n : Nat} (hLow : 0x10000 ≤ n) (hHigh : n < 0x110000) :
    ∃ low high : UInt8, leadShape (0xF0 + n / 0x40000).toUInt8 = some ⟨4, low, high⟩ ∧
      low.toNat ≤ 0x80 + n / 0x1000 % 0x40 ∧ 0x80 + n / 0x1000 % 0x40 ≤ high.toNat := by
  have hByte : 0xF0 + n / 0x40000 < 256 := by omega
  simp only [leadShape, toUInt8_lt_iff hByte, toUInt8_eq_iff hByte, UInt8.reduceToNat]
  rw [if_neg (by omega), if_neg (by omega), if_neg (by omega), if_neg (by omega),
    if_neg (by omega)]
  split
  · exact ⟨_, _, rfl, by simp; omega, by simp; omega⟩
  · split
    · exact ⟨_, _, rfl, by simp, by simp; omega⟩
    · rw [if_pos (by omega)]
      exact ⟨_, _, rfl, by simp, by simp; omega⟩

/-! ## Characters -/

theorem not_toUInt8_lt_ascii {n : Nat} (hLow : 0x80 ≤ n) (hByte : n < 256) :
    ¬ n.toUInt8 < 0x80 :=
  fun hLess => Nat.not_lt.mpr hLow ((toUInt8_lt_iff hByte).mp hLess)

theorem continuation_between {low high : UInt8} {n : Nat} (hLow : low.toNat ≤ 0x80 + n % 0x40)
    (hHigh : 0x80 + n % 0x40 ≤ high.toNat) :
    ((0x80 + n % 0x40).toUInt8 < low || high < (0x80 + n % 0x40).toUInt8) = false := by
  have hByte : 0x80 + n % 0x40 < 256 := by omega
  simp only [toUInt8_lt_iff hByte, lt_toUInt8_iff hByte, Bool.or_eq_false_iff,
    decide_eq_false_iff_not, Nat.not_lt]
  exact ⟨hLow, hHigh⟩

theorem encodeChar_ascii {c : Char} (h : c.toNat < 0x80) : encodeChar c = [c.toNat.toUInt8] := by
  simp only [encodeChar, h, if_true]

/-- The bytes of a character beyond ASCII are all beyond ASCII. -/
theorem le_of_mem_encodeChar {c : Char} (h : 0x80 ≤ c.toNat) {b : UInt8} (hb : b ∈ encodeChar c) :
    0x80 ≤ b.toNat := by
  have hScalar : c.toNat < 0xD800 ∨ (0xDFFF < c.toNat ∧ c.toNat < 0x110000) := c.valid
  simp only [encodeChar, Nat.not_lt.mpr h, if_false] at hb
  repeat' split at hb
  all_goals
    simp only [List.mem_cons, List.not_mem_nil, or_false] at hb
    rcases hb with rfl | rfl | rfl | rfl <;> rw [toNat_toUInt8 (by omega)] <;> omega

theorem decodeChar_encodeChar (c : Char) (rest : Bytes) :
    decodeChar (encodeChar c ++ rest) = .ok (c, rest) := by
  have hScalar : c.toNat < 0xD800 ∨ (0xDFFF < c.toNat ∧ c.toNat < 0x110000) := c.valid
  have hChar : ∀ n, n = c.toNat → Char.ofNat n = c := fun n hn => hn ▸ c.ofNat_toNat
  -- one case for every number of bytes, with the shape that the first byte announces
  unfold encodeChar
  dsimp only
  split
  · rename_i hOne
    have hByte : c.toNat < 256 := by omega
    have hAscii : c.toNat.toUInt8 < 0x80 := (toUInt8_lt_iff hByte).mpr hOne
    simp only [List.cons_append, List.nil_append, decodeChar, if_pos hAscii, toNat_toUInt8 hByte,
      c.ofNat_toNat]
  · rename_i hOne
    split
    · rename_i hTwo
      have hLead := not_toUInt8_lt_ascii (n := 0xC0 + c.toNat / 0x40) (by omega) (by omega)
      have hShape := leadShape_two (n := 0xC0 + c.toNat / 0x40) (by omega) (by omega)
      have hSecond := @continuation_between 0x80 0xBF c.toNat (by simp) (by simp; omega)
      simp only [List.cons_append, List.nil_append, decodeChar, if_neg hLead, hShape, hSecond,
        Bool.false_eq_true, if_false, if_true, payload_continuation]
      rw [toNat_toUInt8 (by omega), hChar _ (by omega)]
    · rename_i hTwo
      split
      · rename_i hThree
        have hLead := not_toUInt8_lt_ascii (n := 0xE0 + c.toNat / 0x1000) (by omega) (by omega)
        obtain ⟨low, high, hShape, hLow, hHigh⟩ :=
          leadShape_three (n := c.toNat) (by omega) hThree (hScalar.imp_right And.left)
        simp only [List.cons_append, List.nil_append, decodeChar, if_neg hLead, hShape,
          continuation_between hLow hHigh, isContinuation_payload, Bool.not_true,
          Bool.false_eq_true, if_false, if_true, payload_continuation, Nat.reduceEqDiff]
        rw [toNat_toUInt8 (by omega), hChar _ (by omega)]
      · rename_i hThree
        have hLead := not_toUInt8_lt_ascii (n := 0xF0 + c.toNat / 0x40000) (by omega) (by omega)
        obtain ⟨low, high, hShape, hLow, hHigh⟩ :=
          leadShape_four (n := c.toNat) (by omega) (by omega)
        simp only [List.cons_append, List.nil_append, decodeChar, if_neg hLead, hShape,
          continuation_between hLow hHigh, isContinuation_payload, Bool.not_true,
          Bool.false_eq_true, if_false, payload_continuation, Nat.reduceEqDiff]
        rw [toNat_toUInt8 (by omega), hChar _ (by omega)]

theorem encodeChar_ne_nil (c : Char) : encodeChar c ≠ [] := by
  unfold encodeChar
  dsimp only
  repeat' split
  all_goals exact List.cons_ne_nil _ _

/-! ## Texts -/

theorem encodeChars_nil : encodeChars [] = [] := rfl

theorem encodeChars_cons (c : Char) (cs : List Char) :
    encodeChars (c :: cs) = encodeChar c ++ encodeChars cs := List.flatMap_cons

theorem encodeChars_append (cs ds : List Char) :
    encodeChars (cs ++ ds) = encodeChars cs ++ encodeChars ds := List.flatMap_append

theorem decodeChars_encodeChars (cs : List Char) : decodeChars (encodeChars cs) = .ok cs := by
  induction cs with
  | nil => simp [encodeChars, decodeChars]
  | cons c cs ih =>
    have hNonempty : (encodeChar c ++ encodeChars cs).isEmpty = false := by
      simp [encodeChar_ne_nil c]
    rw [encodeChars_cons, decodeChars, hNonempty, if_neg Bool.false_ne_true]
    split
    · rename_i hError
      rw [decodeChar_encodeChar] at hError
      cases hError
    · rename_i hOk
      rw [decodeChar_encodeChar] at hOk
      cases hOk
      rw [ih]
      rfl

/-- Every text is read back from its bytes. -/
theorem decode_encode (s : String) : decode (encode s) = .ok s := by
  rw [decode, encode, decodeChars_encodeChars]
  exact congrArg Except.ok String.ofList_toList

theorem decodeLossy_encode (s : String) : decodeLossy (encode s) = s := by
  have hChars : ∀ cs : List Char, decodeLossyChars (encodeChars cs) = cs := by
    intro cs
    induction cs with
    | nil => simp [encodeChars, decodeLossyChars]
    | cons c cs ih =>
      have hNonempty : encodeChar c ++ encodeChars cs ≠ [] := by
        simp [encodeChar_ne_nil c]
      rw [encodeChars_cons, decodeLossyChars, dif_neg hNonempty]
      split
      · rename_i hOk
        rw [decodeChar_encodeChar] at hOk
        cases hOk
        rw [ih]
      all_goals
        rename_i hError
        rw [decodeChar_encodeChar] at hError
        cases hError
  rw [decodeLossy, encode, hChars, String.ofList_toList]

/-! ## ASCII -/

theorem toNat_ofNat_ascii {b : UInt8} (h : b.toNat < 0x80) :
    (Char.ofNat b.toNat).toNat = b.toNat := by
  have hValid : b.toNat.isValidChar := .inl (by omega)
  rw [Char.ofNat, dif_pos hValid]
  rfl

theorem encodeChars_ascii {bs : Bytes} (h : ∀ b ∈ bs, b.toNat < 0x80) :
    encodeChars (bs.map fun b => Char.ofNat b.toNat) = bs := by
  induction bs with
  | nil => rfl
  | cons b bs ih =>
    have hByte := h b List.mem_cons_self
    have hChar := toNat_ofNat_ascii hByte
    have hAscii : (Char.ofNat b.toNat).toNat < 0x80 := hChar.symm ▸ hByte
    rw [List.map_cons, encodeChars_cons, ih fun c hc => h c (List.mem_cons_of_mem _ hc),
      encodeChar_ascii hAscii, hChar]
    simp

theorem decodeLossy_ascii {bs : Bytes} (h : ∀ b ∈ bs, b.toNat < 0x80) :
    decodeLossy bs = String.ofList (bs.map fun b => Char.ofNat b.toNat) := by
  have hBytes : encode (String.ofList (bs.map fun b => Char.ofNat b.toNat)) = bs := by
    rw [encode, String.toList_ofList, encodeChars_ascii h]
  calc decodeLossy bs
      = decodeLossy (encode (String.ofList (bs.map fun b => Char.ofNat b.toNat))) := by
        rw [hBytes]
    _ = String.ofList (bs.map fun b => Char.ofNat b.toNat) := decodeLossy_encode _

/-- The bytes of ASCII make up a text of just these bytes. -/
theorem encode_decodeLossy_ascii {bs : Bytes} (h : ∀ b ∈ bs, b.toNat < 0x80) :
    encode (decodeLossy bs) = bs := by
  rw [decodeLossy_ascii h, encode, String.toList_ofList, encodeChars_ascii h]

end CampaignFetch.Text

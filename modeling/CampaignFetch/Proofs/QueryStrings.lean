import CampaignFetch.Text.Percent
import CampaignFetch.Proofs.Utf8Text

/-!
# Writing queries

Texts can be written into a query so that reading it gives them back: bytes other than letters and
digits are escaped.

* `formDecode_formEncode`: a text as a key or a value.
* `formPairs_formQuery`: any list of keys and values.
* `encode_formText`: the bytes of a query as a text.
-/

namespace CampaignFetch.Text

/-! ## Pieces -/

section

variable {α : Type} [DecidableEq α] {separator : α} {piece : List α}

theorem pieces_of_not_mem (h : separator ∉ piece) : pieces separator piece = [piece] := by
  rw [pieces_eq_splitOn, List.splitOn_eq_singleton h]

theorem pieces_append_cons (h : separator ∉ piece) (rest : List α) :
    pieces separator (piece ++ separator :: rest) = piece :: pieces separator rest := by
  rw [pieces_eq_splitOn, pieces_eq_splitOn, List.splitOn_append_cons_self_of_not_mem h]

end

/-! ## Escapes -/

/-- The bytes of letters and digits, which need no escape. -/
def isWordByte (b : UInt8) : Bool :=
  (48 ≤ b.toNat && b.toNat ≤ 57) || (65 ≤ b.toNat && b.toNat ≤ 90) ||
    (97 ≤ b.toNat && b.toNat ≤ 122)

/-- The hexadecimal digit of a number below sixteen. -/
def hexDigit (n : Nat) : UInt8 := (if n < 10 then 48 + n else 55 + n).toUInt8

/-- A byte as it stands in a query. -/
def escape (b : UInt8) : Bytes :=
  if isWordByte b then [b] else [0x25, hexDigit (b.toNat / 16), hexDigit (b.toNat % 16)]

/-- A text as it stands in a query. -/
def formEncode (s : String) : Bytes := (encode s).flatMap escape

theorem hexDigit_spec : ∀ n : Fin 16,
    hexValue? (hexDigit n) = some n.val ∧ isWordByte (hexDigit n) = true := by
  decide

theorem hexByte?_hexDigit (b : UInt8) :
    hexByte? (hexDigit (b.toNat / 16)) (hexDigit (b.toNat % 16)) = some b := by
  have hByte : b.toNat < 256 := b.toNat_lt
  have hHigh := (hexDigit_spec ⟨b.toNat / 16, by omega⟩).1
  have hLow := (hexDigit_spec ⟨b.toNat % 16, by omega⟩).1
  have hWhole : b.toNat / 16 * 16 + b.toNat % 16 = b.toNat := by omega
  dsimp only at hHigh hLow
  simp only [hexByte?, hHigh, hLow, Option.bind_eq_bind, Option.bind_some, hWhole]
  exact congrArg some (by simp)

theorem mem_escape {b c : UInt8} (h : c ∈ escape b) : c = 0x25 ∨ isWordByte c = true := by
  have hByte : b.toNat < 256 := b.toNat_lt
  unfold escape at h
  split at h
  · rename_i hWord
    exact .inr (List.mem_singleton.mp h ▸ hWord)
  · have hHigh := (hexDigit_spec ⟨b.toNat / 16, by omega⟩).2
    have hLow := (hexDigit_spec ⟨b.toNat % 16, by omega⟩).2
    simp only [List.mem_cons, List.not_mem_nil, or_false] at h
    rcases h with rfl | rfl | rfl
    · exact .inl rfl
    · exact .inr hHigh
    · exact .inr hLow

theorem percentDecode_cons {b : UInt8} (h : b ≠ 0x25) (rest : Bytes) :
    percentDecode (b :: rest) = b :: percentDecode rest := by
  rw [percentDecode]
  exact fun _ _ _ hEscape => absurd hEscape h

theorem percentDecode_escape (b : UInt8) (rest : Bytes) :
    percentDecode (escape b ++ rest) = b :: percentDecode rest := by
  unfold escape
  split
  · rename_i hWord
    exact percentDecode_cons (by rintro rfl; cases hWord) rest
  · simp only [List.cons_append, List.nil_append]
    rw [percentDecode, hexByte?_hexDigit]

theorem mem_formEncode {s : String} {b : UInt8} (h : b ∈ formEncode s) :
    b = 0x25 ∨ isWordByte b = true := by
  obtain ⟨a, -, ha⟩ := List.mem_flatMap.mp h
  exact mem_escape ha

theorem not_mem_formEncode {b : UInt8} (h : (b == 0x25 || isWordByte b) = false) (s : String) :
    b ∉ formEncode s := by
  intro hMem
  rcases mem_formEncode hMem with rfl | hWord
  · cases h
  · rw [hWord, Bool.or_true] at h
    cases h

theorem percentDecode_escapes (bs : Bytes) : percentDecode (bs.flatMap escape) = bs := by
  induction bs with
  | nil => simp [percentDecode]
  | cons b bs ih => rw [List.flatMap_cons, percentDecode_escape, ih]

theorem formDecode_formEncode (s : String) : formDecode (formEncode s) = s := by
  have hPlus : ∀ b ∈ formEncode s, (if b = 0x2B then 0x20 else b) = b := fun b hb =>
    if_neg fun hEq => not_mem_formEncode rfl s (hEq ▸ hb)
  rw [formDecode, List.map_congr_left hPlus, List.map_id', formEncode, percentDecode_escapes,
    decodeLossy_encode]

/-! ## Queries -/

/-- A key and its value as they stand in a query. -/
def formPair (x : String × String) : Bytes := formEncode x.1 ++ 0x3D :: formEncode x.2

/-- The query of keys and values. -/
def formQuery : List (String × String) → Bytes
  | [] => []
  | [x] => formPair x
  | x :: xs => formPair x ++ 0x26 :: formQuery xs

theorem takeWhile_formPair (x : String × String) :
    (formPair x).takeWhile (· ≠ 0x3D) = formEncode x.1 ∧
      ((formPair x).dropWhile (· ≠ 0x3D)).drop 1 = formEncode x.2 := by
  have hKey : ∀ b ∈ formEncode x.1, decide (b ≠ 0x3D) = true := fun b hb =>
    decide_eq_true fun hEq => not_mem_formEncode rfl x.1 (hEq ▸ hb)
  rw [formPair, List.takeWhile_append_of_pos hKey, List.dropWhile_append_of_pos hKey]
  simp

theorem not_mem_formPair (x : String × String) : (0x26 : UInt8) ∉ formPair x := by
  simp only [formPair, List.mem_append, List.mem_cons, not_or]
  exact ⟨not_mem_formEncode rfl _, by decide, not_mem_formEncode rfl _⟩

theorem pieces_formQuery {xs : List (String × String)} (h : xs ≠ []) :
    pieces 0x26 (formQuery xs) = xs.map formPair := by
  fun_induction formQuery xs with
  | case1 => exact absurd rfl h
  | case2 x => exact pieces_of_not_mem (not_mem_formPair x)
  | case3 x xs hNonempty ih =>
    rw [pieces_append_cons (not_mem_formPair x), ih hNonempty, List.map_cons]

theorem formPairs_formQuery (xs : List (String × String)) : formPairs (formQuery xs) = xs := by
  have hPieces : (pieces 0x26 (formQuery xs)).filter (· ≠ []) = xs.map formPair := by
    by_cases hEmpty : xs = []
    · rw [hEmpty]
      rfl
    · rw [pieces_formQuery hEmpty, List.filter_eq_self]
      rintro piece hPiece
      obtain ⟨x, -, rfl⟩ := List.mem_map.mp hPiece
      simp [formPair]
  rw [formPairs, hPieces, List.map_map]
  refine List.map_id'' (fun x => ?_) xs
  simp only [Function.comp, takeWhile_formPair, formDecode_formEncode]

theorem mem_formQuery {xs : List (String × String)} {b : UInt8} (h : b ∈ formQuery xs) :
    b ∈ [0x25, 0x26, 0x3D] ∨ isWordByte b = true := by
  have hEncoded : ∀ s, b ∈ formEncode s → b ∈ [0x25, 0x26, 0x3D] ∨ isWordByte b = true :=
    fun s hMem => (mem_formEncode hMem).imp_left fun hEq => by simp [hEq]
  have hPair : ∀ x, b ∈ formPair x → b ∈ [0x25, 0x26, 0x3D] ∨ isWordByte b = true := by
    intro x hMem
    rcases List.mem_append.mp hMem with hKey | hRest
    · exact hEncoded _ hKey
    · rcases List.mem_cons.mp hRest with rfl | hValue
      · exact .inl (by decide)
      · exact hEncoded _ hValue
  fun_induction formQuery xs with
  | case1 => cases h
  | case2 x => exact hPair x h
  | case3 x xs hNonempty ih =>
    rcases List.mem_append.mp h with hMem | hRest
    · exact hPair x hMem
    · rcases List.mem_cons.mp hRest with rfl | hMem
      · exact .inl (by decide)
      · exact ih hMem

/-- The query of keys and values as a text. -/
def formText (xs : List (String × String)) : String :=
  String.ofList ((formQuery xs).map fun b => Char.ofNat b.toNat)

theorem encode_formText (xs : List (String × String)) : encode (formText xs) = formQuery xs := by
  have hAscii : ∀ b ∈ formQuery xs, b.toNat < 0x80 := by
    intro b hb
    rcases mem_formQuery hb with hMem | hWord
    · simp only [List.mem_cons, List.not_mem_nil, or_false] at hMem
      rcases hMem with rfl | rfl | rfl <;> decide
    · simp only [isWordByte, Bool.or_eq_true, Bool.and_eq_true, decide_eq_true_eq] at hWord
      omega
  rw [encode, formText, String.toList_ofList, encodeChars_ascii hAscii]

end CampaignFetch.Text

import CampaignFetch.Json.Parser
import CampaignFetch.Proofs.Json.Tokens
import Mathlib.Data.List.Forall2

/-!
# Values read back

`ReadsBack read bs a` says that a reader takes the value `a` from its bytes in front of any
document. It holds of each kind of value when it holds of the parts:

* `readsBack_text`, `readsBack_int64`, `readsBack_parsed`, `readsBack_variant`: values without
  parts;
* `ReadsBack.option`, `readsBack_list`: options and lists;
* `readsBack_record`: records, by the entries that `Fills` their fields one after the other;
* `readsBack_record_among`: records with other entries among these, which are skipped;
* `readsBack_json`: any value, as one of no certain type.
-/

namespace CampaignFetch.Json

open Text

/-- The bytes of the compact text of a value. -/
def bytes (j : Json) : Bytes := encodeChars (write j)

theorem encode_text (j : Json) : encode j.text = j.bytes := by
  rw [encode, text, String.toList_ofList]
  rfl

/-- The bytes begin with one that can begin an item of a list. -/
def BeginsItem (bs : Bytes) : Prop :=
  ∃ b more, bs = b :: more ∧ isBlankByte b = false ∧ b ≠ Ascii.closeBracket

/-- The reader takes the value from the bytes in front of what does not go on a number. -/
structure ReadsBack {α : Type} (read : Reader α) (bs : Bytes) (a : α) : Prop where
  begins : BeginsItem bs
  reads : ∀ rest, Delimits rest → read (bs ++ rest) = .ok (a, rest)

theorem skipBlank_cons {b : UInt8} (h : isBlankByte b = false) (bs : Bytes) :
    skipBlank (b :: bs) = b :: bs := by
  simp [skipBlank, h]

theorem BeginsItem.skipBlank {bs : Bytes} (h : BeginsItem bs) (rest : Bytes) :
    skipBlank (bs ++ rest) = bs ++ rest := by
  obtain ⟨b, more, rfl, hBlank, -⟩ := h
  exact skipBlank_cons hBlank _

/-- A value that takes up the whole document is read. -/
theorem ReadsBack.readWhole {α : Type} {read : Reader α} {bs : Bytes} {a : α}
    (h : ReadsBack read bs a) : readWhole read bs = .ok a := by
  have hRead := h.reads [] delimits_nil
  rw [List.append_nil] at hRead
  rw [Json.readWhole, hRead]
  rfl

theorem ReadsBack.map {α β : Type} {read : Reader α} {bs : Bytes} {a : α}
    (h : ReadsBack read bs a) (f : α → β) :
    ReadsBack (fun bs => (read bs).map fun (x, rest) => (f x, rest)) bs (f a) where
  begins := h.begins
  reads rest hRest := by
    rw [h.reads rest hRest]
    rfl

theorem ReadsBack.leniently {α : Type} {read : Reader α} {bs : Bytes} {a : α}
    (h : ReadsBack read bs a) : ReadsBack (readLeniently read) bs (some a) where
  begins := h.begins
  reads rest hRest := by
    rw [readLeniently, h.reads rest hRest]

/-! ## Values without parts -/

theorem bytes_string (s : String) :
    bytes (.string s) =
      Ascii.quote :: (encodeChars (s.toList.flatMap escaped) ++ [Ascii.quote]) := by
  simp only [bytes, write, quote, List.cons_append, encodeChars_cons, encodeChars_append]
  rfl

theorem bytes_string_append (s : String) (rest : Bytes) :
    bytes (.string s) ++ rest =
      Ascii.quote :: (encodeChars (s.toList.flatMap escaped) ++ Ascii.quote :: rest) := by
  rw [bytes_string, List.cons_append, List.append_assoc]
  rfl

theorem begins_string (s : String) : BeginsItem (bytes (.string s)) :=
  ⟨Ascii.quote, _, bytes_string s, by decide, by decide⟩

theorem readStringAs_string (expected s : String) (rest : Bytes) :
    readStringAs expected (bytes (.string s) ++ rest) = .ok (s, rest) := by
  rw [bytes_string_append]
  exact readString_quote s rest

theorem readsBack_text (s : String) : ReadsBack readText (bytes (.string s)) s :=
  ⟨begins_string s, fun rest _ => readStringAs_string _ s rest⟩

theorem readsBack_parsed {α : Type} {parse : String → Except String α} {s : String} {a : α}
    (expected : String) (h : parse s = .ok a) :
    ReadsBack (readParsed expected parse) (bytes (.string s)) a where
  begins := begins_string s
  reads rest _ := by
    simp only [readParsed, readStringAs_string, bind, Except.bind, h]
    rfl

theorem readVariant_quote {α : Type} (variants : List (String × α)) (rest : Bytes) :
    readVariant variants (Ascii.quote :: rest) =
      readString rest >>= fun (name, rest) =>
        acceptVariant variants name rest >>= fun a => .ok (a, rest) := rfl

theorem readsBack_variant {α : Type} {variants : List (String × α)} {name : String} {a : α}
    (h : (variants.find? fun v => v.1 = name).map (·.2) = some a) :
    ReadsBack (readVariant variants) (bytes (.string name)) a where
  begins := begins_string name
  reads rest _ := by
    obtain ⟨v, hFind, rfl⟩ := Option.map_eq_some_iff.mp h
    rw [bytes_string_append, readVariant_quote, readString_quote]
    simp only [bind, Except.bind, acceptVariant, hFind]

theorem isBlankByte_of_isDigit {b : UInt8} (h : Ascii.isDigit b = true) :
    isBlankByte b = false := by
  simp only [Ascii.isDigit, Bool.and_eq_true, decide_eq_true_eq, UInt8.le_iff_toNat_le] at h
  obtain ⟨hLow, -⟩ := h
  simp only [UInt8.reduceToNat] at hLow
  simp only [isBlankByte, Bool.or_eq_false_iff, decide_eq_false_iff_not]
  refine ⟨⟨⟨?_, ?_⟩, ?_⟩, ?_⟩ <;> · rintro rfl; exact absurd hLow (by decide)

theorem ne_of_isDigit {b c : UInt8} (h : Ascii.isDigit b = true) (hc : Ascii.isDigit c = false) :
    b ≠ c := by
  rintro rfl
  rw [h] at hc
  cases hc

theorem bytes_int (n : Int) : bytes (int n) = encode (ofInt n) := rfl

theorem front_int (n : Int) :
    ∃ b bs, bytes (int n) = b :: bs ∧ (b = Ascii.minus ∨ Ascii.isDigit b = true) := by
  rw [bytes_int]
  cases n with
  | ofNat m =>
    obtain ⟨b, bs, hBytes, hDigit⟩ := encodeChars_toDigits m
    exact ⟨b, bs, (encode_ofInt_ofNat m).trans hBytes, .inr hDigit⟩
  | negSucc m => exact ⟨Ascii.minus, _, encode_ofInt_negSucc m, .inl rfl⟩

theorem begins_int (n : Int) : BeginsItem (bytes (int n)) := by
  obtain ⟨b, bs, hBytes, rfl | hDigit⟩ := front_int n
  · exact ⟨_, bs, hBytes, by decide, by decide⟩
  · exact ⟨b, bs, hBytes, isBlankByte_of_isDigit hDigit, ne_of_isDigit hDigit (by decide)⟩

theorem readInt64_minus (rest : Bytes) :
    readInt64 (Ascii.minus :: rest) =
      readNumber true rest >>= fun (n, rest) => acceptInt64 n rest := rfl

theorem readInt64_digit {b : UInt8} (h : Ascii.isDigit b = true) (rest : Bytes) :
    readInt64 (b :: rest) =
      readNumber false (b :: rest) >>= fun (n, rest) => acceptInt64 n rest := by
  rw [readInt64, skipBlank_cons (isBlankByte_of_isDigit h)]
  split
  · rename_i hNil
    cases hNil
  · rename_i hMinus
    cases hMinus
    exact absurd h (by decide)
  · rename_i hDigit
    cases hDigit
    rw [if_pos h]

theorem acceptInt64_int {n : Int} (h : fitsInt64 n = true) (rest : Bytes) :
    acceptInt64 (.int n) rest = .ok (n, rest) := if_pos h

theorem readsBack_int64 {n : Int} (h : fitsInt64 n = true) :
    ReadsBack readInt64 (bytes (int n)) n where
  begins := begins_int n
  reads rest hRest := by
    rw [bytes_int]
    rcases readNumber_ofInt h hRest with ⟨bs, hBytes, hRead⟩ | ⟨b, bs, hBytes, hDigit, hRead⟩
    · rw [hBytes, List.cons_append, readInt64_minus, hRead]
      exact acceptInt64_int h rest
    · rw [hBytes, List.cons_append, readInt64_digit hDigit, ← List.cons_append, hRead]
      exact acceptInt64_int h rest

/-- Skipping takes the bytes from in front of what does not go on a number. -/
def Skips (bs : Bytes) : Prop :=
  ∀ rest, Delimits rest → skipValue (bs ++ rest) = .ok rest

theorem skipScalar_digit {b : UInt8} (h : Ascii.isDigit b = true) (bs : Bytes) :
    skipScalar (b :: bs) = skipNumber (b :: bs) := by
  have hNe : ∀ c, Ascii.isDigit c = false → b ≠ c := fun c hc => ne_of_isDigit h hc
  unfold skipScalar
  split <;> rename_i hFront <;> cases hFront
  · exact absurd rfl (hNe Ascii.letterN (by decide))
  · exact absurd rfl (hNe Ascii.letterT (by decide))
  · exact absurd rfl (hNe Ascii.letterF (by decide))
  · exact absurd rfl (hNe Ascii.minus (by decide))
  · exact absurd rfl (hNe Ascii.quote (by decide))
  · rw [if_pos h]

theorem skipValue_digit {b : UInt8} (hDigit : Ascii.isDigit b = true) {bs rest : Bytes}
    (h : skipNumber (b :: bs) = .ok rest) : skipValue (b :: bs) = .ok rest := by
  have hNe : ∀ c, Ascii.isDigit c = false → b ≠ c := fun c hc => ne_of_isDigit hDigit hc
  have hFront : skipFront [] (b :: bs) = .ok (⟨[], .nextPart⟩, rest) := by
    rw [skipFront, skipBlank_cons (isBlankByte_of_isDigit hDigit)]
    split
    · rename_i hOpen
      cases hOpen
      exact absurd rfl (hNe Ascii.openBracket (by decide))
    · rename_i hOpen
      cases hOpen
      exact absurd rfl (hNe Ascii.openBrace (by decide))
    · rw [skipScalar_digit hDigit, h]
      rfl
  rw [skipValue, hFront]
  cases rest <;> rfl

theorem skipValue_minus {bs rest : Bytes} (h : skipNumber bs = .ok rest) :
    skipValue (Ascii.minus :: bs) = .ok rest := by
  change ((skipNumber bs).map _ >>= _) = _
  rw [h]
  cases rest <;> rfl

/-- An integer of any size is skipped. -/
theorem skips_int (n : Int) : Skips (bytes (int n)) := by
  intro rest hRest
  rw [bytes_int]
  cases n with
  | ofNat m =>
    have hSkip := skipNumber_toDigits m hRest
    obtain ⟨b, bs, hBytes, hDigit⟩ := encodeChars_toDigits m
    rw [hBytes] at hSkip
    rw [encode_ofInt_ofNat, hBytes]
    exact skipValue_digit hDigit hSkip
  | negSucc m =>
    rw [encode_ofInt_negSucc]
    exact skipValue_minus (skipNumber_toDigits (m + 1) hRest)

/-! ## Options -/

theorem ReadsBack.option {α : Type} {read : Reader α} {bs : Bytes} {a : α}
    (h : ReadsBack read bs a) (hNull : bs.head? ≠ some Ascii.letterN) :
    ReadsBack (readOption read) bs (some a) where
  begins := h.begins
  reads rest hRest := by
    have hRead := h.reads rest hRest
    rw [readOption, h.begins.skipBlank]
    split
    · rename_i hLetter
      obtain ⟨b, more, rfl, -⟩ := h.begins
      cases hLetter
      exact absurd rfl hNull
    · rw [hRead]
      rfl

theorem head?_bytes_string (s : String) :
    (bytes (.string s)).head? ≠ some Ascii.letterN := by
  rw [bytes_string]
  exact fun hHead => absurd (Option.some.inj hHead) (by decide)

theorem readsBack_some_text (s : String) :
    ReadsBack (readOption readText) (bytes (.string s)) (some s) :=
  (readsBack_text s).option (head?_bytes_string s)

/-! ## Lists -/

/-- The parts with commas between them, and one before the first unless that is the first of
all. -/
def separated : (first : Bool) → List Bytes → Bytes
  | _, [] => []
  | first, bs :: bss => (if first then bs else Ascii.comma :: bs) ++ separated false bss

theorem length_le_separated {first : Bool} {bss : List Bytes} (h : ∀ bs ∈ bss, BeginsItem bs) :
    bss.length ≤ (separated first bss).length := by
  induction bss generalizing first with
  | nil => exact Nat.zero_le _
  | cons bs bss ih =>
    obtain ⟨b, more, hCons, -⟩ := h bs List.mem_cons_self
    have ih := @ih false fun x hx => h x (List.mem_cons_of_mem _ hx)
    subst hCons
    cases first <;> simp only [separated, Bool.false_eq_true, if_true, if_false,
      List.length_append, List.length_cons] <;> omega

theorem delimits_comma (rest : Bytes) : Delimits (Ascii.comma :: rest) :=
  delimits_cons (by decide) (by decide) (by decide) rest

theorem delimits_closeBracket (rest : Bytes) : Delimits (Ascii.closeBracket :: rest) :=
  delimits_cons (by decide) (by decide) (by decide) rest

theorem delimits_closeBrace (rest : Bytes) : Delimits (Ascii.closeBrace :: rest) :=
  delimits_cons (by decide) (by decide) (by decide) rest

theorem delimits_separated {bss : List Bytes} {rest : Bytes} (h : Delimits rest) :
    Delimits (separated false bss ++ rest) := by
  cases bss with
  | nil => exact h
  | cons bs bss => exact delimits_comma _

theorem separated_writeItems (items : List Json) :
    encodeChars (writeItems items) = separated true (items.map bytes) := by
  induction items with
  | nil => rfl
  | cons j items ih =>
    cases items with
    | nil => simp [writeItems, separated, bytes]
    | cons k items =>
      rw [writeItems, encodeChars_append, encodeChars_cons, ih]
      · rfl
      · exact List.cons_ne_nil _ _

theorem bytes_array (items : List Json) :
    bytes (.array items) =
      Ascii.openBracket :: (separated true (items.map bytes) ++ [Ascii.closeBracket]) := by
  rw [bytes, write, List.cons_append, encodeChars_cons, encodeChars_append, separated_writeItems]
  rfl

theorem nextItem_first {bs : Bytes} (h : BeginsItem bs) (rest : Bytes) :
    nextItem true (bs ++ rest) = .ok (some (bs ++ rest)) := by
  obtain ⟨b, more, rfl, hBlank, hClose⟩ := h
  rw [List.cons_append, nextItem, skipBlank_cons hBlank]
  split
  · rename_i hNil
    cases hNil
  · rename_i hEnd
    cases hEnd
    exact absurd rfl hClose
  · rename_i hItem
    cases hItem
    rfl

theorem nextItem_afterComma (rest : Bytes) :
    nextItem false (Ascii.comma :: rest) =
      match skipBlank rest with
      | [] => .error (.next .eofValue [])
      | Ascii.closeBracket :: more => .error (.next .trailingComma (Ascii.closeBracket :: more))
      | rest => .ok (some rest) := rfl

theorem nextItem_comma {bs : Bytes} (h : BeginsItem bs) (rest : Bytes) :
    nextItem false (Ascii.comma :: (bs ++ rest)) = .ok (some (bs ++ rest)) := by
  rw [nextItem_afterComma, h.skipBlank]
  obtain ⟨b, more, rfl, -, hClose⟩ := h
  split
  · rename_i hNil
    cases hNil
  · rename_i hEnd
    cases hEnd
    exact absurd rfl hClose
  · rfl

theorem nextItem_separated {bs : Bytes} (h : BeginsItem bs) (first : Bool) (bss : List Bytes)
    (rest : Bytes) :
    nextItem first (separated first (bs :: bss) ++ rest) =
      .ok (some (bs ++ (separated false bss ++ rest))) := by
  rw [separated, List.append_assoc]
  cases first with
  | true => exact nextItem_first h _
  | false => exact nextItem_comma h _

theorem nextItem_closeBracket (first : Bool) (rest : Bytes) :
    nextItem first (Ascii.closeBracket :: rest) = .ok none := rfl

theorem closeList_closeBracket (rest : Bytes) :
    closeList (Ascii.closeBracket :: rest) = .ok rest := rfl

theorem readItems_separated {α : Type} {item : Reader α} {bss : List Bytes} {as : List α}
    (h : List.Forall₂ (ReadsBack item) bss as) {bound : Bytes} {index : Nat}
    (hBound : bss.length < bound.length) (rest : Bytes) :
    readItems item bound index (separated (index == 0) bss ++ Ascii.closeBracket :: rest) =
      .ok (as, rest) := by
  induction h generalizing bound index with
  | nil =>
    cases bound with
    | nil => cases hBound
    | cons x bound =>
      simp only [separated, List.nil_append, readItems, nextItem_closeBracket,
        closeList_closeBracket]
      rfl
  | cons hItem _ ih =>
    cases bound with
    | nil => cases hBound
    | cons x bound =>
      rename_i bs a bss as _
      have ih := @ih bound (index + 1) (Nat.lt_of_succ_lt_succ hBound)
      have hRead := hItem.reads (separated false bss ++ Ascii.closeBracket :: rest)
        (delimits_separated (delimits_closeBracket rest))
      simp only [readItems, nextItem_separated hItem.begins, hRead, bind, Except.bind,
        Except.mapError]
      rw [show (index + 1 == 0) = false from rfl] at ih
      rw [ih]
      rfl

theorem begins_array (items : List Json) : BeginsItem (bytes (.array items)) :=
  ⟨Ascii.openBracket, _, bytes_array items, by decide, by decide⟩

theorem bytes_array_append (items : List Json) (rest : Bytes) :
    bytes (.array items) ++ rest = Ascii.openBracket ::
      (separated true (items.map bytes) ++ Ascii.closeBracket :: rest) := by
  rw [bytes_array, List.cons_append, List.append_assoc]
  rfl

/-- The items of a list are read before its closing bracket, with the list as the bound. -/
theorem readItems_array {α : Type} {item : Reader α} {bss : List Bytes} {as : List α}
    (h : List.Forall₂ (ReadsBack item) bss as) (rest : Bytes) :
    readItems item (separated true bss ++ Ascii.closeBracket :: rest) 0
      (separated true bss ++ Ascii.closeBracket :: rest) = .ok (as, rest) := by
  refine @readItems_separated _ _ _ _ h _ 0 ?_ rest
  have hBegins : ∀ bs ∈ bss, BeginsItem bs := by
    clear rest
    induction h with
    | nil => exact fun _ hbs => absurd hbs List.not_mem_nil
    | cons hItem _ ih => exact List.forall_mem_cons.mpr ⟨hItem.begins, ih⟩
  have := @length_le_separated true bss hBegins
  rw [List.length_append, List.length_cons]
  omega

theorem readsBack_list {α : Type} {item : Reader α} {items : List Json} {as : List α}
    (h : List.Forall₂ (fun j a => ReadsBack item (bytes j) a) items as) :
    ReadsBack (readList item) (bytes (.array items)) as where
  begins := begins_array items
  reads rest _ := by
    rw [bytes_array_append]
    exact readItems_array (List.forall₂_map_left_iff.mpr h) rest

/-! ## Entries -/

/-- The bytes of an entry of an object. -/
def entryBytes (e : String × Json) : Bytes :=
  bytes (.string e.1) ++ Ascii.colon :: bytes e.2

theorem begins_entry (e : String × Json) : BeginsItem (entryBytes e) := by
  rw [entryBytes, bytes_string_append]
  exact ⟨Ascii.quote, _, rfl, by decide, by decide⟩

theorem separated_writeEntries (entries : List (String × Json)) :
    encodeChars (writeEntries entries) = separated true (entries.map entryBytes) := by
  induction entries with
  | nil => rfl
  | cons e entries ih =>
    have hEntry : encodeChars (quote e.1 ++ ':' :: write e.2) = entryBytes e := by
      rw [encodeChars_append, encodeChars_cons]
      rfl
    cases entries with
    | nil => simp [writeEntries, separated, hEntry]
    | cons e' entries =>
      rw [writeEntries, encodeChars_append, hEntry, encodeChars_cons, ih]
      · rfl
      · exact List.cons_ne_nil _ _

theorem bytes_object_append (entries : List (String × Json)) (rest : Bytes) :
    bytes (.object entries) ++ rest = Ascii.openBrace ::
      (separated true (entries.map entryBytes) ++ Ascii.closeBrace :: rest) := by
  rw [bytes, write, List.cons_append, encodeChars_cons, encodeChars_append,
    separated_writeEntries, List.append_assoc, List.append_assoc]
  rfl

theorem begins_object (entries : List (String × Json)) : BeginsItem (bytes (.object entries)) := by
  have hBytes := bytes_object_append entries []
  rw [List.append_nil] at hBytes
  exact ⟨Ascii.openBrace, _, hBytes, by decide, by decide⟩

theorem nextKey_afterComma (rest : Bytes) :
    nextKey false (Ascii.comma :: Ascii.quote :: rest) = .ok (some rest) := rfl

theorem nextKey_first (rest : Bytes) : nextKey true (Ascii.quote :: rest) = .ok (some rest) := rfl

theorem nextKey_closeBrace (first : Bool) (rest : Bytes) :
    nextKey first (Ascii.closeBrace :: rest) = .ok none := rfl

theorem passBrace_closeBrace (rest : Bytes) : passBrace (Ascii.closeBrace :: rest) = rest := rfl

theorem nextKey_separated (first : Bool) (e : String × Json) (bss : List Bytes) (rest : Bytes) :
    nextKey first (separated first (entryBytes e :: bss) ++ rest) =
      .ok (some (encodeChars (e.1.toList.flatMap escaped) ++
        Ascii.quote :: Ascii.colon :: (bytes e.2 ++ (separated false bss ++ rest)))) := by
  rw [separated, entryBytes, bytes_string_append, List.append_assoc]
  cases first with
  | true =>
    rw [if_pos rfl, List.cons_append, nextKey_first, List.append_assoc]
    rfl
  | false =>
    rw [if_neg Bool.false_ne_true, List.cons_append, List.cons_append, nextKey_afterComma,
      List.append_assoc]
    rfl

theorem readColon_colon (rest : Bytes) : readColon (Ascii.colon :: rest) = .ok rest := rfl

theorem length_le_separated_entries (entries : List (String × Json)) :
    entries.length ≤ (separated true (entries.map entryBytes)).length := by
  have hBegins : ∀ bs ∈ entries.map entryBytes, BeginsItem bs := by
    intro bs hbs
    obtain ⟨e, -, rfl⟩ := List.mem_map.mp hbs
    exact begins_entry e
  simpa using @length_le_separated true _ hBegins

/-! ## Records -/

theorem ReadsBack.put {α β : Type} {name : String} {presence : Presence} {value : Reader β}
    {put : β → α → α} {bs : Bytes} {x : β} (h : ReadsBack value bs x) :
    ReadsBack (Field.of name presence value put).read bs (put x) := h.map put

/-- The entries with the names fill the fields of a record one after the other, each the field of
its name. The other entries belong to no field and are skipped. -/
inductive FillsAmong {α : Type} (fields : List (Field α)) :
    (names : List String) → List (String × Json) → α → α → Prop
  | nil (a : α) : FillsAmong fields [] [] a a
  | field {key : String} {j : Json} {names : List String} {entries : List (String × Json)}
      {field : Field α} {put : α → α} {a b : α}
      (hField : (fields.find? fun f => f.name = key) = some field)
      (hValue : ReadsBack field.read (bytes j) put)
      (hRest : FillsAmong fields names entries (put a) b) :
      FillsAmong fields (key :: names) ((key, j) :: entries) a b
  | other {key : String} {j : Json} {names : List String} {entries : List (String × Json)}
      {a b : α} (hField : (fields.find? fun f => f.name = key) = none) (hValue : Skips (bytes j))
      (hRest : FillsAmong fields names entries a b) :
      FillsAmong fields names ((key, j) :: entries) a b

theorem readFields_among {α : Type} {fields : List (Field α)} {names : List String}
    {entries : List (String × Json)} {a b : α} (h : FillsAmong fields names entries a b)
    {bound : Bytes} (hBound : entries.length < bound.length) {seen : List String}
    (hOnce : names.Nodup) (hNew : ∀ name ∈ names, name ∉ seen) (first : Bool) (rest : Bytes) :
    readFields fields bound first seen a
        (separated first (entries.map entryBytes) ++ Ascii.closeBrace :: rest) =
      .ok ((b, names.reverse ++ seen), rest) := by
  induction h generalizing bound seen first with
  | nil a =>
    cases bound with
    | nil => cases hBound
    | cons x bound =>
      simp only [List.map_nil, separated, List.nil_append, readFields, nextKey_closeBrace,
        passBrace_closeBrace]
      rfl
  | @field key j names entries field put a b hField hValue _ ih =>
    cases bound with
    | nil => cases hBound
    | cons x bound =>
      rw [List.nodup_cons] at hOnce
      have hRead := hValue.reads (separated false (entries.map entryBytes) ++
        Ascii.closeBrace :: rest) (delimits_separated (delimits_closeBrace rest))
      -- distinct and new names keep the reader from taking the field for a repeated one
      have hSeen : seen.contains key = false := by
        simpa using hNew key List.mem_cons_self
      have hNext : ∀ name ∈ names, name ∉ key :: seen := by
        intro name hName hMem
        rcases List.mem_cons.mp hMem with hKey | hOld
        · exact hOnce.1 (hKey ▸ hName)
        · exact hNew name (List.mem_cons_of_mem _ hName) hOld
      have ih := @ih bound (Nat.lt_of_succ_lt_succ hBound) (key :: seen) hOnce.2 hNext false
      rw [List.map_cons]
      simp only [readFields, nextKey_separated, readString_quote, readColon_colon, hField, hSeen,
        hRead, ih, bind, Except.bind, Except.mapError, Bool.false_eq_true, if_false]
      simp
  | @other key j names entries a b hField hValue _ ih =>
    cases bound with
    | nil => cases hBound
    | cons x bound =>
      have hSkip := hValue (separated false (entries.map entryBytes) ++
        Ascii.closeBrace :: rest) (delimits_separated (delimits_closeBrace rest))
      have ih := @ih bound (Nat.lt_of_succ_lt_succ hBound) seen hOnce hNew false
      rw [List.map_cons]
      simp only [readFields, nextKey_separated, readString_quote, readColon_colon, hField, hSkip,
        ih, bind, Except.bind, Except.mapError]

/-- A record is read from entries among which some fill its fields, each once, when no required
one is left. -/
theorem readsBack_record_among {α : Type} {type : String} {fields : List (Field α)} {blank a : α}
    {names : List String} {entries : List (String × Json)}
    (h : FillsAmong fields names entries blank a) (hOnce : names.Nodup)
    (hComplete : missing? fields names.reverse = none) :
    ReadsBack (readRecord type fields blank) (bytes (.object entries)) a where
  begins := begins_object entries
  reads rest _ := by
    have hLength := length_le_separated_entries entries
    have hFields := @readFields_among α fields names entries blank a h
      (separated true (entries.map entryBytes) ++ Ascii.closeBrace :: rest)
      (by rw [List.length_append, List.length_cons]; omega) [] hOnce
      (fun _ _ => List.not_mem_nil) true rest
    rw [List.append_nil] at hFields
    rw [bytes_object_append]
    change (readFields fields _ true [] blank _ >>= _) = _
    rw [hFields]
    simp only [bind, Except.bind, hComplete]
    rfl

/-- The entries fill the fields of a record one after the other, each the field of its name. -/
inductive Fills {α : Type} (fields : List (Field α)) : List (String × Json) → α → α → Prop
  | nil (a : α) : Fills fields [] a a
  | cons {key : String} {j : Json} {entries : List (String × Json)} {field : Field α}
      {put : α → α} {a b : α} (hField : (fields.find? fun f => f.name = key) = some field)
      (hValue : ReadsBack field.read (bytes j) put) (hRest : Fills fields entries (put a) b) :
      Fills fields ((key, j) :: entries) a b

theorem Fills.among {α : Type} {fields : List (Field α)} {entries : List (String × Json)} {a b : α}
    (h : Fills fields entries a b) : FillsAmong fields (entries.map (·.1)) entries a b := by
  induction h with
  | nil a => exact .nil a
  | cons hField hValue _ ih => exact .field hField hValue ih

/-- A record is read from entries that fill its fields, each once, when no required one is
left. -/
theorem readsBack_record {α : Type} {type : String} {fields : List (Field α)} {blank a : α}
    {entries : List (String × Json)} (h : Fills fields entries blank a)
    (hOnce : (entries.map (·.1)).Nodup)
    (hComplete : missing? fields (entries.map (·.1)).reverse = none) :
    ReadsBack (readRecord type fields blank) (bytes (.object entries)) a :=
  readsBack_record_among h.among hOnce hComplete

/-! ## Values of no certain type -/

/-- The value has integers of sixty-four bits as its only numbers, and at most so many lists and
objects one inside the other. -/
inductive Plain : (levels : Nat) → Json → Prop
  | null {levels : Nat} : Plain levels .null
  | bool {levels : Nat} (b : Bool) : Plain levels (.bool b)
  | int {levels : Nat} {n : Int} (h : fitsInt64 n = true) : Plain levels (int n)
  | string {levels : Nat} (s : String) : Plain levels (.string s)
  | array {levels : Nat} {items : List Json} (h : ∀ j ∈ items, Plain levels j) :
      Plain (levels + 1) (.array items)
  | object {levels : Nat} {entries : List (String × Json)} (h : ∀ e ∈ entries, Plain levels e.2) :
      Plain (levels + 1) (.object entries)

theorem readEntries_separated {value : Reader Json} {entries : List (String × Json)}
    (h : ∀ e ∈ entries, ReadsBack value (bytes e.2) e.2) {bound : Bytes}
    (hBound : entries.length < bound.length) (first : Bool) (rest : Bytes) :
    readEntries value bound first
        (separated first (entries.map entryBytes) ++ Ascii.closeBrace :: rest) =
      .ok (entries, rest) := by
  induction entries generalizing bound first with
  | nil =>
    cases bound with
    | nil => cases hBound
    | cons x bound =>
      simp only [List.map_nil, separated, List.nil_append, readEntries, nextKey_closeBrace,
        passBrace_closeBrace]
      rfl
  | cons e entries ih =>
    cases bound with
    | nil => cases hBound
    | cons x bound =>
      have hRead := (h e List.mem_cons_self).reads (separated false (entries.map entryBytes) ++
        Ascii.closeBrace :: rest) (delimits_separated (delimits_closeBrace rest))
      have ih := @ih (fun e' he' => h e' (List.mem_cons_of_mem _ he')) bound
        (Nat.lt_of_succ_lt_succ hBound) false
      rw [List.map_cons]
      simp only [readEntries, nextKey_separated, readString_quote, readColon_colon, hRead, ih,
        bind, Except.bind, Except.mapError]
      rfl

theorem readJson_null (levels : Nat) (rest : Bytes) :
    readJson levels (bytes .null ++ rest) = .ok (.null, rest) := by
  cases levels <;> rfl

theorem readJson_bool (levels : Nat) (b : Bool) (rest : Bytes) :
    readJson levels (bytes (.bool b) ++ rest) = .ok (.bool b, rest) := by
  cases levels <;> cases b <;> rfl

theorem readJson_quote (levels : Nat) (rest : Bytes) :
    readJson levels (Ascii.quote :: rest) =
      (readString rest).map fun (s, rest) => (.string s, rest) := by
  cases levels <;> rfl

theorem readJson_minus (levels : Nat) (rest : Bytes) :
    readJson levels (Ascii.minus :: rest) =
      (readNumber true rest).map fun (n, rest) => (.number n, rest) := by
  cases levels <;> rfl

theorem readJson_digit (levels : Nat) {b : UInt8} (h : Ascii.isDigit b = true) (rest : Bytes) :
    readJson levels (b :: rest) =
      (readNumber false (b :: rest)).map fun (n, rest) => (.number n, rest) := by
  have hNe : ∀ c, Ascii.isDigit c = false → b ≠ c := fun c hc => ne_of_isDigit h hc
  unfold readJson
  rw [skipBlank_cons (isBlankByte_of_isDigit h)]
  split <;> rename_i hFront <;> cases hFront
  · exact absurd rfl (hNe Ascii.letterN (by decide))
  · exact absurd rfl (hNe Ascii.letterT (by decide))
  · exact absurd rfl (hNe Ascii.letterF (by decide))
  · exact absurd rfl (hNe Ascii.minus (by decide))
  · exact absurd rfl (hNe Ascii.quote (by decide))
  · exact absurd rfl (hNe Ascii.openBracket (by decide))
  · exact absurd rfl (hNe Ascii.openBrace (by decide))
  · rw [if_pos h]

theorem readJson_openBracket (levels : Nat) (bs : Bytes) :
    readJson (levels + 1) (Ascii.openBracket :: bs) =
      match readItems (readJson levels) bs 0 bs with
      | .ok (js, rest) => .ok (.array js, rest)
      | .error fault => .error (fault.leaving passListEnd bs) := rfl

theorem readJson_openBrace (levels : Nat) (bs : Bytes) :
    readJson (levels + 1) (Ascii.openBrace :: bs) =
      match readEntries (readJson levels) bs true bs with
      | .ok (entries, rest) => .ok (.object entries, rest)
      | .error fault => .error (fault.leaving passBrace bs) := rfl

/-- A plain value is read back from its text when it is read as one of no certain type. -/
theorem readsBack_json {levels : Nat} {j : Json} (h : Plain levels j) :
    ReadsBack (readJson levels) (bytes j) j := by
  induction h with
  | null => exact ⟨⟨Ascii.letterN, _, rfl, by decide, by decide⟩, fun rest _ =>
      readJson_null _ rest⟩
  | bool b =>
    refine ⟨?_, fun rest _ => readJson_bool _ b rest⟩
    cases b
    · exact ⟨Ascii.letterF, _, rfl, by decide, by decide⟩
    · exact ⟨Ascii.letterT, _, rfl, by decide, by decide⟩
  | int hFits =>
    refine ⟨begins_int _, fun rest hRest => ?_⟩
    rw [bytes_int]
    rcases readNumber_ofInt hFits hRest with
      ⟨bs, hBytes, hRead⟩ | ⟨b, bs, hBytes, hDigit, hRead⟩
    · rw [hBytes, List.cons_append, readJson_minus, hRead]
      rfl
    · rw [hBytes, List.cons_append, readJson_digit _ hDigit, ← List.cons_append, hRead]
      rfl
  | string s =>
    refine ⟨begins_string s, fun rest _ => ?_⟩
    rw [bytes_string_append, readJson_quote, readString_quote]
    rfl
  | array _ ih =>
    refine ⟨begins_array _, fun rest _ => ?_⟩
    rw [bytes_array_append, readJson_openBracket,
      readItems_array (List.forall₂_map_left_iff.mpr (List.forall₂_same.mpr ih)) rest]
  | @object levels entries _ ih =>
    refine ⟨begins_object _, fun rest _ => ?_⟩
    have hLength := length_le_separated_entries entries
    rw [bytes_object_append, readJson_openBrace, readEntries_separated ih ?_ true rest]
    rw [List.length_append, List.length_cons]
    omega

/-- A plain value is read back from its text. -/
theorem parse?_text {levels : Nat} {j : Json} (h : Plain levels j) :
    parse? levels j.text = .ok j := by
  rw [parse?, encode_text]
  exact (readsBack_json h).readWhole

end CampaignFetch.Json

import CampaignFetch.Json.Record
import CampaignFetch.Proofs.Results
import Mathlib.Data.List.Forall2

/-!
# What readers of records keep and what they share

Two facts about reading a record hold as soon as they hold of its fields.

* `readRecord_keeps`: a property of the record without fields, which no field destroys, holds of
  every record that is read.
* `readRecord_maps`: records of two types whose fields correspond are read from the same documents,
  as records that correspond. `readList_map` and `readWhole_map` carry this on to lists and whole
  documents.
-/

namespace CampaignFetch.Json

/-! ## What the fields keep -/

/-- Whatever value is read for the field, a record with the property keeps it. -/
def Field.Keeps {α : Type} (P : α → Prop) (field : Field α) : Prop :=
  ∀ bs put rest, field.read bs = .ok (put, rest) → ∀ a, P a → P (put a)

section

variable {α : Type} {P : α → Prop} {fields : List (Field α)}

theorem readFields_keeps (hFields : ∀ field ∈ fields, field.Keeps P) {bound : Bytes}
    {first : Bool} {seen seen' : List String} {a b : α} {bs rest : Bytes}
    (h : readFields fields bound first seen a bs = .ok ((b, seen'), rest)) (ha : P a) : P b := by
  induction bound generalizing first seen a bs with
  | nil => cases h
  | cons x bound ih =>
    obtain ⟨next, hNext, h⟩ := bind_eq_ok h
    cases next with
    | none =>
      cases h
      exact ha
    | some bs =>
      obtain ⟨⟨key, more⟩, hKey, h⟩ := bind_eq_ok h
      dsimp only at h
      split at h
      · rename_i field hField
        split at h
        · cases h
        · obtain ⟨value, hColon, h⟩ := bind_eq_ok h
          obtain ⟨⟨put, more⟩, hRead, h⟩ := bind_eq_ok h
          have hMem := List.mem_of_find?_eq_some hField
          exact ih h (hFields field hMem _ _ _ (mapError_eq_ok hRead) a ha)
      · obtain ⟨value, hColon, h⟩ := bind_eq_ok h
        obtain ⟨more, hSkip, h⟩ := bind_eq_ok h
        exact ih h ha

theorem readPositions_keeps {expected : String} (hFields : ∀ field ∈ fields, field.Keeps P)
    {index : Nat} {a b : α} {bs rest : Bytes}
    (h : readPositions expected fields index a bs = .ok (b, rest)) (ha : P a) : P b := by
  induction fields generalizing index a bs with
  | nil =>
    obtain ⟨more, -, hEnd⟩ := map_eq_ok h
    cases hEnd
    exact ha
  | cons field fields ih =>
    rw [List.forall_mem_cons] at hFields
    obtain ⟨next, hNext, h⟩ := bind_eq_ok h
    cases next with
    | none =>
      dsimp only at h
      split at h
      · exact ih hFields.2 h ha
      · obtain ⟨more, hClose, h⟩ := bind_eq_ok h
        cases h
    | some bs =>
      obtain ⟨⟨put, more⟩, hRead, h⟩ := bind_eq_ok h
      exact ih hFields.2 h (hFields.1 _ _ _ (mapError_eq_ok hRead) a ha)

/-- A property of the record without fields that every field keeps holds of each record that is
read. -/
theorem readRecord_keeps (hFields : ∀ field ∈ fields, field.Keeps P) {type : String} {blank a : α}
    (hBlank : P blank) {bs rest : Bytes}
    (h : readRecord type fields blank bs = .ok (a, rest)) : P a := by
  unfold readRecord at h
  split at h
  · cases h
  · exact readPositions_keeps hFields h hBlank
  · obtain ⟨⟨⟨b, seen⟩, more⟩, hRead, h⟩ := bind_eq_ok h
    have hKept := readFields_keeps hFields hRead hBlank
    dsimp only at h
    split at h
    · cases h
      exact hKept
    · cases h
  · cases h

end

/-! ## Fields that correspond -/

section

variable {α β : Type} {g : α → β}

/-- The fields have the same name and presence, and they read the same into records that
correspond. -/
structure Field.Maps (g : α → β) (field : Field α) (field' : Field β) : Prop where
  name : field'.name = field.name
  presence : field'.presence = field.presence
  fails : ∀ bs fault, field.read bs = .error fault → field'.read bs = .error fault
  reads : ∀ bs put rest, field.read bs = .ok (put, rest) →
    ∃ put', field'.read bs = .ok (put', rest) ∧ ∀ a, put' (g a) = g (put a)

theorem Field.maps_of {γ δ : Type} {name : String} {presence : Presence} {value : Reader γ}
    {value' : Reader δ} {put : γ → α → α} {put' : δ → β → β} {f : γ → δ}
    (hValue : ∀ bs, value' bs = (value bs).map fun (x, rest) => (f x, rest))
    (hPut : ∀ x a, put' (f x) (g a) = g (put x a)) :
    Field.Maps g (.of name presence value put) (.of name presence value' put') where
  name := rfl
  presence := rfl
  fails bs fault hRead := by
    simp only [Field.of, hValue] at hRead ⊢
    cases hBs : value bs <;> rw [hBs] at hRead <;> cases hRead
    rfl
  reads bs f rest hRead := by
    obtain ⟨⟨x, more⟩, hBs, hPair⟩ := map_eq_ok hRead
    cases hPair
    exact ⟨_, by simp only [Field.of, hValue, hBs, Except.map], hPut x⟩

variable {fields : List (Field α)} {fields' : List (Field β)}

theorem find?_maps (h : List.Forall₂ (Field.Maps g) fields fields') (key : String) :
    (fields.find? fun f => f.name = key) = none ∧ (fields'.find? fun f => f.name = key) = none ∨
      ∃ field field', (fields.find? fun f => f.name = key) = some field ∧
        (fields'.find? fun f => f.name = key) = some field' ∧ field.Maps g field' := by
  induction h with
  | nil => exact .inl ⟨rfl, rfl⟩
  | @cons field field' fields fields' hField _ ih =>
    by_cases hKey : field.name = key
    · refine .inr ⟨field, field', ?_, ?_, hField⟩
      · simp [hKey]
      · simp [hField.name, hKey]
    · simpa [hField.name, hKey] using ih

theorem missing?_maps (h : List.Forall₂ (Field.Maps g) fields fields') (seen : List String) :
    missing? fields' seen = missing? fields seen := by
  induction h with
  | nil => rfl
  | cons hField _ ih =>
    simp only [missing?, List.find?_cons, hField.name, hField.presence] at ih ⊢
    split
    · simp [hField.name]
    · exact ih

/-- What follows on a field corresponds when it does after values that correspond. -/
theorem Field.Maps.bind {field : Field α} {field' : Field β} (h : field.Maps g field')
    {γ δ : Type} {wrap : Fault → Fault} {f : (α → α) × Bytes → Except Fault γ}
    {f' : (β → β) × Bytes → Except Fault δ} {k : γ → δ}
    (hNext : ∀ put put' rest, (∀ a, put' (g a) = g (put a)) →
      f' (put', rest) = (f (put, rest)).map k) (bs : Bytes) :
    ((field'.read bs).mapError wrap >>= f') = ((field.read bs).mapError wrap >>= f).map k := by
  cases hRead : field.read bs with
  | error fault =>
    rw [h.fails bs fault hRead]
    rfl
  | ok pair =>
    obtain ⟨put', hRead', hPut⟩ := h.reads bs pair.1 pair.2 hRead
    rw [hRead']
    exact hNext pair.1 put' pair.2 hPut

theorem readFields_maps (h : List.Forall₂ (Field.Maps g) fields fields') (bound : Bytes)
    (first : Bool) (seen : List String) (a : α) (bs : Bytes) :
    readFields fields' bound first seen (g a) bs =
      (readFields fields bound first seen a bs).map
        fun ((a, seen), rest) => ((g a, seen), rest) := by
  induction bound generalizing first seen a bs with
  | nil => rfl
  | cons x bound ih =>
    rw [readFields, readFields]
    refine bind_eq_map_bind fun next => ?_
    cases next with
    | none => rfl
    | some bs =>
      refine bind_eq_map_bind fun token => ?_
      rcases find?_maps h token.1 with ⟨hNone, hNone'⟩ | ⟨field, field', hFind, hFind', hMaps⟩
      · simp only [hNone, hNone']
        exact bind_eq_map_bind fun _ => bind_eq_map_bind fun rest => ih false seen a rest
      · simp only [hFind, hFind']
        split
        · rfl
        · refine bind_eq_map_bind fun rest => hMaps.bind (fun put put' more hPut => ?_) rest
          have ih := ih false (token.1 :: seen) (put a) more
          rwa [← hPut] at ih

theorem readPositions_maps (h : List.Forall₂ (Field.Maps g) fields fields') (expected : String)
    (index : Nat) (a : α) (bs : Bytes) :
    readPositions expected fields' index (g a) bs =
      (readPositions expected fields index a bs).map fun (a, rest) => (g a, rest) := by
  induction h generalizing index a bs with
  | nil =>
    rw [readPositions, readPositions]
    cases closeList bs <;> rfl
  | @cons field field' fields fields' hField _ ih =>
    rw [readPositions, readPositions]
    refine bind_eq_map_bind fun next => ?_
    cases next with
    | none =>
      simp only [hField.presence]
      split
      · exact ih (index + 1) a bs
      · exact bind_eq_map_bind fun _ => rfl
    | some bs =>
      refine hField.bind (fun put put' rest hPut => ?_) bs
      have ih := ih (index + 1) (put a) rest
      rwa [← hPut] at ih

/-- Records whose fields correspond are read from the same documents, or refused for the same
faults. -/
theorem readRecord_maps (h : List.Forall₂ (Field.Maps g) fields fields') (type : String)
    (blank : α) (bs : Bytes) :
    readRecord type fields' (g blank) bs =
      (readRecord type fields blank bs).map fun (a, rest) => (g a, rest) := by
  unfold readRecord
  split
  · rfl
  · rw [readPositions_maps h, h.length_eq]
  · rw [readFields_maps h]
    cases readFields fields _ true [] blank _ with
    | error fault => rfl
    | ok pair =>
      obtain ⟨⟨a, seen⟩, rest⟩ := pair
      simp only [Except.map, ok_bind, missing?_maps h]
      split <;> rfl
  · rfl

theorem readItems_map {item : Reader α} {item' : Reader β}
    (h : ∀ bs, item' bs = (item bs).map fun (a, rest) => (g a, rest)) (bound : Bytes)
    (index : Nat) (bs : Bytes) :
    readItems item' bound index bs =
      (readItems item bound index bs).map fun (as, rest) => (as.map g, rest) := by
  induction bound generalizing index bs with
  | nil => rfl
  | cons x bound ih =>
    rw [readItems, readItems]
    refine bind_eq_map_bind fun next => ?_
    cases next with
    | none => exact bind_eq_map_bind fun _ => rfl
    | some bs =>
      simp only [h]
      cases item bs with
      | error fault => rfl
      | ok pair =>
        simp only [Except.map, Except.mapError, ok_bind, ih]
        cases readItems item bound (index + 1) pair.2 <;> rfl

theorem readList_map {item : Reader α} {item' : Reader β}
    (h : ∀ bs, item' bs = (item bs).map fun (a, rest) => (g a, rest)) (bs : Bytes) :
    readList item' bs = (readList item bs).map fun (as, rest) => (as.map g, rest) := by
  unfold readList
  split
  · rfl
  · exact readItems_map h _ _ _
  · rfl

theorem readWhole_map {value : Reader α} {value' : Reader β}
    (h : ∀ bs, value' bs = (value bs).map fun (a, rest) => (g a, rest)) (document : Bytes) :
    readWhole value' document = (readWhole value document).map g := by
  rw [readWhole, readWhole, h]
  cases value document with
  | error fault => rfl
  | ok pair =>
    simp only [Except.map, ok_bind]
    split <;> rfl

end

end CampaignFetch.Json

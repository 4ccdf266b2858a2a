import CampaignFetch.Proofs.Json.ReadBack
import CampaignFetch.Proofs.Json.RecordReaders
import CampaignFetch.Proofs.RequestSequences

/-!
# Lists of filters as texts

A list of filters is read back from its text, whatever the texts in it, as long as no unsupported
operator has the text of a supported one. Filters that are read never have such an operator.

* `Operator.named_iff`: such operators are the ones that texts name.
* `WrittenFilter` is a filter with the text of its operator, and `Filter.parseList_eq` says that a
  list of filters is read as a list of these, for every text.
* `Filter.parseList_listText`: the list is read back.
* `filter_lists_read_back`: the round trips, and that the fetch is refused with the first text that
  was written for an operator and names none.
-/

namespace CampaignFetch

open Json

/-! ## Operators -/

namespace Operator

/-- An unsupported operator does not have the text of a supported one. -/
def Named (o : Operator) : Prop :=
  ∀ text, o = .unsupported text → text ≠ "EQUALS" ∧ text ≠ "IN"

theorem named_ofText (s : String) : (ofText s).Named := by
  intro text h
  unfold ofText at h
  split at h
  · cases h
  · split at h
    · cases h
    · rename_i hEquals hIn
      cases h
      exact ⟨hEquals, hIn⟩

theorem named_iff {o : Operator} : o.Named ↔ ofText o.text = o := by
  refine ⟨fun h => ?_, fun h => h ▸ named_ofText o.text⟩
  cases o with
  | equals => rfl
  | isIn => rfl
  | unsupported text =>
    obtain ⟨hEquals, hIn⟩ := h text rfl
    rw [Operator.text, ofText, if_neg hEquals, if_neg hIn]

theorem unsupported_iff {s text : String} :
    ofText s = .unsupported text ↔ s = text ∧ s ≠ "EQUALS" ∧ s ≠ "IN" := by
  constructor
  · intro h
    have hNamed := named_ofText s text h
    have hText := text_ofText s
    rw [h] at hText
    exact ⟨hText.symm, hText ▸ hNamed⟩
  · rintro ⟨rfl, hEquals, hIn⟩
    rw [ofText, if_neg hEquals, if_neg hIn]

end Operator

/-! ## Filters with the texts of their operators -/

/-- A filter whose operator is any text. -/
structure WrittenFilter where
  field : String
  operator : String
  values : List String

namespace WrittenFilter

/-- The fields of the document, which are those of a filter. -/
def fields : List (Json.Field WrittenFilter) := [
  .of "field" .required readText fun x f => { f with field := x },
  .of "operator" .required readText fun x f => { f with operator := x },
  .of "values" .required (readList readText) fun x f => { f with values := x }]

/-- Reads a filter and leaves its operator as it is written. -/
def read : Reader WrittenFilter := readRecord "QueryFilter" fields ⟨"", "EQUALS", []⟩

/-- The filters that the text lists, with the texts of their operators. -/
def parseList (s : String) : Except Fault (List WrittenFilter) :=
  if Text.isBlankText s then .ok [] else readWhole (readList read) (Text.encode s)

/-- The filter with the operator that the text names. -/
def filter (w : WrittenFilter) : Filter := ⟨w.field, .ofText w.operator, w.values⟩

theorem map_same {α : Type} (value : Reader α) (bs : Bytes) :
    value bs = (value bs).map fun (x, rest) => (id x, rest) := by
  cases value bs <;> rfl

theorem maps_fields : List.Forall₂ (Field.Maps filter) fields Filter.fields := by
  refine .cons (Field.maps_of (map_same readText) fun _ _ => rfl) (.cons ?_ (.cons ?_ .nil))
  · exact Field.maps_of (fun _ => rfl) fun _ _ => rfl
  · exact Field.maps_of (map_same (readList readText)) fun _ _ => rfl

theorem read_filter (bs : Bytes) :
    Filter.read bs = (read bs).map fun (w, rest) => (w.filter, rest) := by
  have hBlank : filter ⟨"", "EQUALS", []⟩ = ⟨"", .equals, []⟩ := by
    simp [filter, Operator.ofText]
  rw [Filter.read, ← hBlank, readRecord_maps maps_fields]
  rfl

end WrittenFilter

/-! ## Lists -/

namespace Filter

/-- Reading a list of filters is reading their texts and naming the operators. -/
theorem parseList_eq (s : String) :
    parseList s = (WrittenFilter.parseList s).map (List.map WrittenFilter.filter) := by
  unfold parseList WrittenFilter.parseList
  split
  · rfl
  · exact readWhole_map (readList_map WrittenFilter.read_filter) _

/-- The text of a list of filters. -/
def listText (filters : List Filter) : String := Json.text (.array (filters.map Filter.toJson))

theorem readsBack_operator {o : Operator} (h : o.Named) :
    ReadsBack Operator.read (bytes (.string o.text)) o where
  begins := begins_string o.text
  reads rest hRest := by
    rw [Operator.read, (readsBack_text o.text).reads rest hRest]
    simp only [Except.map, Operator.named_iff.mp h]

theorem readsBack_values (values : List String) :
    ReadsBack (readList readText) (bytes (.array (values.map .string))) values :=
  readsBack_list (List.forall₂_map_left_iff.mpr
    (List.forall₂_same.mpr fun s _ => readsBack_text s))

theorem readsBack {f : Filter} (h : f.operator.Named) :
    ReadsBack Filter.read (bytes f.toJson) f := by
  have hNames : ["field", "operator", "values"].Nodup := by decide
  have hComplete : missing? fields ["values", "operator", "field"] = none := by
    simp [missing?, fields, Field.of]
  refine readsBack_record ?_ hNames hComplete
  refine .cons rfl (ReadsBack.put (readsBack_text f.field)) ?_
  refine .cons rfl (ReadsBack.put (readsBack_operator h)) ?_
  exact .cons rfl (ReadsBack.put (readsBack_values f.values)) (.nil f)

theorem not_isBlankText_listText (filters : List Filter) :
    Text.isBlankText (listText filters) = false := by
  rw [Text.isBlankText, listText, text, String.toList_ofList, write, List.cons_append,
    List.all_cons]
  rfl

/-- A list of filters is read back from its text. -/
theorem parseList_listText {filters : List Filter} (h : ∀ f ∈ filters, f.operator.Named) :
    parseList (listText filters) = .ok filters := by
  have hItems : List.Forall₂ (fun j f => ReadsBack Filter.read (bytes j) f)
      (filters.map Filter.toJson) filters :=
    List.forall₂_map_left_iff.mpr (List.forall₂_same.mpr fun f hf => readsBack (h f hf))
  rw [parseList, not_isBlankText_listText, if_neg Bool.false_ne_true, listText, encode_text]
  exact (readsBack_list hItems).readWhole

theorem named_of_parseList {s : String} {filters : List Filter} (h : parseList s = .ok filters) :
    ∀ f ∈ filters, f.operator.Named := by
  intro f hf
  rw [parseList_eq] at h
  obtain ⟨written, -, rfl⟩ := map_eq_ok h
  obtain ⟨w, -, rfl⟩ := List.mem_map.mp hf
  exact Operator.named_ofText w.operator

end Filter

/-! ## Refusals -/

/-- The first text that was written for an operator and names none. -/
def WrittenFilter.unnamed? (written : List WrittenFilter) : Option String :=
  (written.map (·.operator)).find? fun text => text ≠ "EQUALS" ∧ text ≠ "IN"

theorem WrittenFilter.unsupported?_filter (w : WrittenFilter) (text : String) :
    w.filter.unsupported? = some text ↔
      w.operator = text ∧ w.operator ≠ "EQUALS" ∧ w.operator ≠ "IN" := by
  have hOperator : w.filter.operator = Operator.ofText w.operator := rfl
  rw [← Operator.unsupported_iff, Filter.unsupported?, hOperator]
  cases Operator.ofText w.operator <;> simp

theorem WrittenFilter.findSome?_filter (written : List WrittenFilter) :
    (written.map filter).findSome? Filter.unsupported? = unnamed? written := by
  induction written with
  | nil => rfl
  | cons w written ih =>
    rw [unnamed?] at ih ⊢
    rw [List.map_cons, List.map_cons, List.findSome?_cons, List.find?_cons, ih]
    by_cases hNamed : w.operator ≠ "EQUALS" ∧ w.operator ≠ "IN"
    · rw [(w.unsupported?_filter _).mpr ⟨rfl, hNamed⟩, decide_eq_true hNamed]
    · have hNone : w.filter.unsupported? = none := Option.eq_none_iff_forall_ne_some.mpr
        fun text hText => hNamed ((w.unsupported?_filter text).mp hText).2
      rw [hNone, decide_eq_false hNamed]

/-- A request with a positive limit is refused exactly for the first operator without a name. -/
theorem fetchFrom_unsupported_iff {σ : Type} {written : List WrittenFilter} {r : Request}
    (hFilters : r.filters = written.map WrittenFilter.filter) (hLimit : 1 ≤ r.limit)
    (s : FetchSettings) (k : Kind) (b : Backend σ) (state : σ) (text : String) :
    ((fetchFrom s k r).run.run b state).1 = .error (.unsupportedOperator text) ↔
      WrittenFilter.unnamed? written = some text := by
  have hRefusal : r.refusal? = (WrittenFilter.unnamed? written).map .unsupportedOperator := by
    rw [Request.refusal?, if_neg (Int.not_lt.mpr hLimit), hFilters,
      WrittenFilter.findSome?_filter]
  cases hFirst : WrittenFilter.unnamed? written with
  | none =>
    rw [hFirst] at hRefusal
    rw [FetchSettings.fetchFrom_run (Request.refusal?_eq_none_iff.mp hRefusal)]
    simp only [reduceCtorEq, iff_false]
    cases (b.join (s.joinQuery k r) state).1 <;> exact fun h => nomatch h
  | some operator =>
    rw [hFirst] at hRefusal
    rw [FetchSettings.fetchFrom_of_refusal hRefusal]
    change Except.error (FetchFault.unsupportedOperator operator) = _ ↔ _
    simp

/-! ## The round trips -/

/-- A list of filters whose unsupported operators are not texts of supported ones is read back from
its text. What is read from any text is therefore read again from what is written for it; the texts
of its operators are the ones that the text holds, and a fetch with these filters and a positive
limit is refused for the first of them that names no operator, with this very text. -/
theorem filter_lists_read_back :
    (∀ filters : List Filter, (∀ f ∈ filters, f.operator.Named) →
      Filter.parseList (Filter.listText filters) = .ok filters) ∧
    ∀ s filters, Filter.parseList s = .ok filters →
      Filter.parseList (Filter.listText filters) = .ok filters ∧
      ∃ written, WrittenFilter.parseList s = .ok written ∧
        filters.map (·.operator.text) = written.map (·.operator) ∧
        ∀ r : Request, r.filters = filters → 1 ≤ r.limit →
          ∀ (settings : FetchSettings) (k : Kind) (σ : Type) (b : Backend σ) (state : σ)
            (text : String),
            ((fetchFrom settings k r).run.run b state).1 = .error (.unsupportedOperator text) ↔
              WrittenFilter.unnamed? written = some text := by
  refine ⟨fun filters h => Filter.parseList_listText h, fun s filters hRead => ?_⟩
  have hNamed := Filter.named_of_parseList hRead
  rw [Filter.parseList_eq] at hRead
  obtain ⟨written, hWritten, rfl⟩ := map_eq_ok hRead
  refine ⟨Filter.parseList_listText hNamed, written, hWritten, ?_, ?_⟩
  · rw [List.map_map]
    exact List.map_congr_left fun w _ => Operator.text_ofText w.operator
  · intro r hFilters hLimit settings k σ b state text
    exact fetchFrom_unsupported_iff hFilters hLimit settings k b state text

/-- A list with an operator in another case than the supported one. -/
def lowercaseFilters : List Filter :=
  [⟨"na\"me", .equals, []⟩, ⟨"\x00", .unsupported "equals", ["\\", "é"]⟩, ⟨"", .isIn, [""]⟩]

theorem named_lowercaseFilters : ∀ f ∈ lowercaseFilters, f.operator.Named := by
  simp [lowercaseFilters, Operator.Named]

theorem filter_lists_read_back_lowercase :
    (∀ f ∈ lowercaseFilters, f.operator.Named) ∧
    Filter.parseList (Filter.listText lowercaseFilters) = .ok lowercaseFilters ∧
    ∀ (σ : Type) (b : Backend σ) (state : σ),
      ((fetchFrom .standard .campaign ⟨[], lowercaseFilters, 1⟩).run.run b state).1 =
        .error (.unsupportedOperator "equals") := by
  obtain ⟨hText, hRead⟩ := filter_lists_read_back
  have hParse := hText lowercaseFilters named_lowercaseFilters
  obtain ⟨hAgain, written, -, hOperators, hRefused⟩ := hRead _ _ hParse
  have hFirst : WrittenFilter.unnamed? written = some "equals" := by
    rw [WrittenFilter.unnamed?, ← hOperators]
    decide
  exact ⟨named_lowercaseFilters, hAgain, fun σ b state =>
    (hRefused ⟨[], lowercaseFilters, 1⟩ rfl (by decide) .standard .campaign σ b state
      "equals").mpr hFirst⟩

end CampaignFetch

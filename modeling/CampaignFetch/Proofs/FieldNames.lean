import CampaignFetch.Proofs.NameResolution
import CampaignFetch.Proofs.TrimmedText
import Mathlib.Data.List.Forall2
import Mathlib.Data.List.Induction

/-!
# The fields of a request

A request keeps of the names that it is given the trimmed ones, without the empty name and without
repetitions. `Firsts` says which list this is without the way in which it is made, and determines it
(`Firsts.unique`), so that whatever already has this form stays as it is.

* `Request.firsts_normalize`: a request's fields are the first occurrences of the trimmed names.
* `Request.normalize_of_trimmed`: names in this form stay.
* `Request.splitFields_intercalate`: such names come back when they are joined by commas and split.
* `fields_canonical`: the form of a comma-separated text, and the columns that it selects.
-/

namespace CampaignFetch

/-- The names are the texts other than the empty one, each once, in the order of their first
occurrences. -/
structure Firsts (texts names : List String) : Prop where
  mem_iff : ∀ x, x ∈ names ↔ x ∈ texts ∧ x ≠ ""
  ordered : names.Pairwise fun x y => texts.idxOf x < texts.idxOf y

namespace Firsts

variable {texts names others : List String} {x : String}

theorem nodup (h : Firsts texts names) : names.Nodup := by
  apply h.ordered.imp
  rintro x y hBefore rfl
  exact Nat.lt_irrefl _ hBefore

theorem unique (h : Firsts texts names) (h' : Firsts texts others) : names = others := by
  have hPerm : names.Perm others :=
    (List.perm_ext_iff_of_nodup h.nodup h'.nodup).mpr fun x =>
      (h.mem_iff x).trans (h'.mem_iff x).symm
  apply hPerm.eq_of_pairwise _ h.ordered h'.ordered
  intro x y _ _ hBefore hAfter
  exact absurd hAfter (Nat.lt_asymm hBefore)

theorem of_nodup (hNodup : names.Nodup) (hSome : "" ∉ names) : Firsts names names where
  mem_iff x := by
    constructor
    · intro hx
      exact ⟨hx, fun hEmpty => hSome (hEmpty ▸ hx)⟩
    · exact And.left
  ordered := by
    apply List.pairwise_iff_getElem.mpr
    intro i j hi hj hBefore
    rw [hNodup.idxOf_getElem i hi, hNodup.idxOf_getElem j hj]
    exact hBefore

theorem idxOf_concat (h : Firsts texts names) (hx : x ∈ names) (y : String) :
    (texts ++ [y]).idxOf x = texts.idxOf x :=
  List.idxOf_append_of_mem ((h.mem_iff x).mp hx).1

theorem ordered_concat (h : Firsts texts names) (y : String) :
    names.Pairwise fun a b => (texts ++ [y]).idxOf a < (texts ++ [y]).idxOf b := by
  apply h.ordered.imp_of_mem
  intro a b ha hb hBefore
  rw [h.idxOf_concat ha, h.idxOf_concat hb]
  exact hBefore

theorem concat_old (h : Firsts texts names) (hOld : x = "" ∨ x ∈ names) :
    Firsts (texts ++ [x]) names where
  mem_iff y := by
    rw [h.mem_iff, List.mem_append, List.mem_singleton]
    constructor
    · exact And.imp Or.inl id
    · rintro ⟨hy | rfl, hSome⟩
      · exact ⟨hy, hSome⟩
      · exact (h.mem_iff y).mp (hOld.resolve_left hSome)
  ordered := h.ordered_concat x

theorem concat_new (h : Firsts texts names) (hSome : x ≠ "") (hNew : x ∉ names) :
    Firsts (texts ++ [x]) (names ++ [x]) where
  mem_iff y := by
    rw [List.mem_append, List.mem_append, List.mem_singleton, h.mem_iff, or_and_right]
    apply or_congr_right
    constructor
    · rintro rfl
      exact ⟨rfl, hSome⟩
    · exact And.left
  ordered := by
    refine List.pairwise_append.mpr ⟨h.ordered_concat x, List.pairwise_singleton _ _, ?_⟩
    intro a ha b hb
    have hNot : x ∉ texts := fun hx => hNew ((h.mem_iff x).mpr ⟨hx, hSome⟩)
    have hIn : texts.idxOf a < texts.length :=
      List.idxOf_lt_length_of_mem ((h.mem_iff a).mp ha).1
    rw [List.mem_singleton.mp hb, h.idxOf_concat ha, List.idxOf_append_of_notMem hNot]
    omega

end Firsts

namespace Request

/-! ## Normalising -/

theorem normalize_concat (names : List String) (name : String) :
    normalize (names ++ [name]) =
      if Text.trim name = "" ∨ Text.trim name ∈ normalize names then normalize names
      else normalize names ++ [Text.trim name] := by
  have hStep : normalize (names ++ [name]) =
      if (Text.trim name).isEmpty || (normalize names).contains (Text.trim name) then
        normalize names
      else normalize names ++ [Text.trim name] := by
    unfold normalize
    rw [List.foldl_append, List.foldl_cons, List.foldl_nil]
  rw [hStep]
  simp only [Bool.or_eq_true, String.isEmpty_iff, List.contains_iff_mem]

/-- The names are those that occur first, after trimming. -/
theorem firsts_normalize (names : List String) :
    Firsts (names.map Text.trim) (normalize names) := by
  induction names using List.reverseRecOn with
  | nil => exact ⟨by simp [normalize], List.Pairwise.nil⟩
  | append_singleton names name ih =>
    rw [normalize_concat, List.map_append, List.map_singleton]
    split
    · rename_i hOld
      exact ih.concat_old hOld
    · rename_i hNew
      rw [not_or] at hNew
      exact ih.concat_new hNew.1 hNew.2

theorem trimmed_of_mem_normalize {names : List String} {x : String} (h : x ∈ normalize names) :
    Text.Trimmed x := by
  obtain ⟨hMem, -⟩ := ((firsts_normalize names).mem_iff x).mp h
  obtain ⟨name, -, rfl⟩ := List.mem_map.mp hMem
  exact Text.trimmed_trim name

theorem ne_empty_of_mem_normalize {names : List String} {x : String} (h : x ∈ normalize names) :
    x ≠ "" :=
  (((firsts_normalize names).mem_iff x).mp h).2

/-- Trimmed names without the empty one and without repetitions stay as they are. -/
theorem normalize_of_trimmed {names : List String} (hNodup : names.Nodup)
    (hTrimmed : ∀ x ∈ names, Text.Trimmed x) (hSome : "" ∉ names) : normalize names = names := by
  have hSame : names.map Text.trim = names :=
    (List.map_congr_left fun x hx => (hTrimmed x hx).trim_eq).trans (List.map_id' names)
  have hFirsts := firsts_normalize names
  rw [hSame] at hFirsts
  exact hFirsts.unique (.of_nodup hNodup hSome)

theorem normalize_normalize (names : List String) :
    normalize (normalize names) = normalize names := by
  apply normalize_of_trimmed (firsts_normalize names).nodup
  · intro x hx
    exact trimmed_of_mem_normalize hx
  · intro hEmpty
    exact ne_empty_of_mem_normalize hEmpty rfl

/-- The empty name has no effect, so it makes no difference when it is left out. -/
theorem normalize_filter (names : List String) :
    normalize (names.filter fun name => !name.isEmpty) = normalize names := by
  induction names using List.reverseRecOn with
  | nil => rfl
  | append_singleton names name ih =>
    rw [List.filter_append, normalize_concat]
    by_cases hEmpty : name = ""
    · subst hEmpty
      have hTrim : Text.trim "" = "" := by decide
      rw [if_pos (.inl hTrim)]
      exact (congrArg normalize (List.append_nil _)).trans ih
    · have hKept : [name].filter (fun name => !name.isEmpty) = [name] := by
        simp [hEmpty]
      rw [hKept, normalize_concat, ih]

/-! ## Texts with commas -/

/-- The texts are those between the commas of `s`, without the blank characters around them. -/
def Listed (s : String) (texts : List String) : Prop :=
  ∃ parts : List String, parts ≠ [] ∧ (∀ part ∈ parts, ',' ∉ part.toList) ∧
    ",".intercalate parts = s ∧ List.Forall₂ Text.Trims parts texts

theorem pieces_commaJoined {parts : List String} (hSome : parts ≠ [])
    (hParts : ∀ part ∈ parts, ',' ∉ part.toList) :
    Text.pieces ',' (",".intercalate parts).toList = parts.map String.toList := by
  rw [String.toList_intercalate]
  apply Text.pieces_intercalate
  · rwa [ne_eq, List.map_eq_nil_iff]
  · intro cs hcs
    obtain ⟨part, hPart, rfl⟩ := List.mem_map.mp hcs
    exact hParts part hPart

theorem forall₂_trims_iff {parts texts : List String} :
    List.Forall₂ Text.Trims parts texts ↔ parts.map Text.trim = texts := by
  have hSame : Text.Trims = fun part text => Text.trim part = text := by
    funext part text
    exact propext Text.trim_eq_iff.symm
  rw [hSame, ← List.forall₂_map_left_iff (R := Eq), List.forall₂_eq_eq_eq]

theorem listed_iff {s : String} {texts : List String} : Listed s texts ↔
    (Text.pieces ',' s.toList).map (fun piece => Text.trim (String.ofList piece)) = texts := by
  constructor
  · rintro ⟨parts, hSome, hParts, rfl, hTrims⟩
    rw [pieces_commaJoined hSome hParts, List.map_map, ← forall₂_trims_iff.mp hTrims]
    exact List.map_congr_left fun part _ => congrArg Text.trim String.ofList_toList
  · rintro rfl
    refine ⟨(Text.pieces ',' s.toList).map String.ofList, ?_, ?_, ?_, ?_⟩
    · rw [ne_eq, List.map_eq_nil_iff]
      exact Text.pieces_ne_nil ',' s.toList
    · intro part hPart
      obtain ⟨piece, hPiece, rfl⟩ := List.mem_map.mp hPart
      rw [String.toList_ofList]
      exact Text.not_mem_of_mem_pieces hPiece
    · apply String.toList_inj.mp
      rw [String.toList_intercalate, List.map_map, String.toList_comp_ofList, List.map_id]
      exact Text.intercalate_pieces ',' s.toList
    · rw [forall₂_trims_iff, List.map_map]
      rfl

theorem normalize_splitFields {s : String} {texts : List String} (h : Listed s texts) :
    Firsts texts (normalize (splitFields (some s))) := by
  have hTexts := listed_iff.mp h
  have hTrimmed : texts.map Text.trim = texts := by
    rw [← hTexts, List.map_map]
    exact List.map_congr_left fun piece _ => Text.trim_trim _
  have hFirsts := firsts_normalize texts
  rw [hTrimmed, ← normalize_filter, ← hTexts] at hFirsts
  rw [← hTexts]
  exact hFirsts

/-- Names that nothing is trimmed from come back from a text with commas between them. -/
theorem splitFields_intercalate {names : List String} (hTrimmed : ∀ x ∈ names, Text.Trimmed x)
    (hSome : "" ∉ names) (hComma : ∀ x ∈ names, ',' ∉ x.toList) :
    splitFields (some (",".intercalate names)) = names := by
  by_cases hNames : names = []
  · subst hNames
    decide
  · have hTexts : (names.map String.toList).map (fun piece => Text.trim (String.ofList piece)) =
        names := by
      rw [List.map_map]
      refine (List.map_congr_left fun x hx => ?_).trans (List.map_id' names)
      exact (congrArg Text.trim String.ofList_toList).trans (hTrimmed x hx).trim_eq
    rw [splitFields, pieces_commaJoined hNames hComma, hTexts, List.filter_eq_self]
    intro x hx
    have hNe : x ≠ "" := fun hEmpty => hSome (hEmpty ▸ hx)
    simp [hNe]

theorem Listed.comma_not_mem {s x : String} {texts : List String} (h : Listed s texts)
    (hx : x ∈ texts) : ',' ∉ x.toList := by
  rw [← listed_iff.mp h] at hx
  obtain ⟨piece, hPiece, rfl⟩ := List.mem_map.mp hx
  intro hComma
  have hMem := Text.mem_of_mem_trim hComma
  rw [String.toList_ofList] at hMem
  exact Text.not_mem_of_mem_pieces hPiece hMem

end Request

/-! ## Selected columns -/

theorem Column.not_namedBy_empty (primary : Kind) (c : Column) : ¬ c.NamedBy primary "" := by
  cases primary <;> cases c <;> decide

theorem Kind.not_prefixes_empty (k : Kind) : ¬ k.Prefixes "" := by
  rw [Kind.prefixes_iff]
  cases k <;> decide

/-- Neither order nor repetitions nor the empty name matter for what is selected. -/
theorem Firsts.selectedBy_iff {texts names : List String} (h : Firsts texts names) {primary : Kind}
    {all : Bool} {c : Column} :
    c.SelectedBy primary all names ↔ c.SelectedBy primary all texts := by
  have hMem : ∀ P : String → Prop, ¬ P "" → ((∃ x ∈ names, P x) ↔ ∃ x ∈ texts, P x) := by
    intro P hEmpty
    constructor
    · rintro ⟨x, hx, hP⟩
      exact ⟨x, ((h.mem_iff x).mp hx).1, hP⟩
    · rintro ⟨x, hx, hP⟩
      exact ⟨x, (h.mem_iff x).mpr ⟨hx, fun hx => hEmpty (hx ▸ hP)⟩, hP⟩
  have hNamed := hMem _ (c.not_namedBy_empty primary)
  have hPrefixed := not_congr (hMem _ primary.other.not_prefixes_empty)
  simp only [not_exists, not_and] at hPrefixed
  rw [Column.SelectedBy, Column.SelectedBy, Column.AskedBy, Column.AskedBy, hNamed, hPrefixed]

section

variable {texts names : List String} {s : FetchSettings} {primary : Kind} {filters : List Filter}
  {limit : Int}

theorem Firsts.ownColumns_eq (h : Firsts texts names) :
    s.ownColumns primary ⟨names, filters, limit⟩ =
      s.ownColumns primary ⟨texts, filters, limit⟩ := by
  have hSelected : ∀ fields, s.ownColumns primary ⟨fields, filters, limit⟩ =
      primary.columns.filter fun c =>
        c.SelectedBy primary (s.direction primary).allFieldsWhenEmpty fields :=
    fun fields => resolve_eq_filter fun _ => mem_selected_own_iff
  simp only [hSelected, h.selectedBy_iff]

theorem Firsts.relatedColumns_eq (h : Firsts texts names) :
    s.relatedColumns primary ⟨names, filters, limit⟩ =
      s.relatedColumns primary ⟨texts, filters, limit⟩ := by
  have hSelected : ∀ fields, s.relatedColumns primary ⟨fields, filters, limit⟩ =
      primary.other.columns.filter fun c =>
        c.SelectedBy primary (s.direction primary).allFieldsWhenEmpty fields :=
    fun fields => resolve_eq_filter fun _ => mem_selected_related_iff
  simp only [hSelected, h.selectedBy_iff]

/-- The whole plan of a fetch is the same for the names as for the texts. -/
theorem Firsts.plan_eq (h : Firsts texts names) :
    s.plan primary ⟨names, filters, limit⟩ = s.plan primary ⟨texts, filters, limit⟩ := by
  have hOwn : s.ownColumns primary ⟨names, filters, limit⟩ =
      s.ownColumns primary ⟨texts, filters, limit⟩ := h.ownColumns_eq
  have hRelated : s.relatedColumns primary ⟨names, filters, limit⟩ =
      s.relatedColumns primary ⟨texts, filters, limit⟩ := h.relatedColumns_eq
  simp only [FetchSettings.ownColumns] at hOwn
  simp only [FetchSettings.relatedColumns] at hRelated
  simp only [FetchSettings.plan, hOwn, hRelated]

end

/-- The fields that a comma-separated text asks for are what stands between its commas, trimmed,
without the empty name, in the order of first occurrences; they stay when a request is made of them
again and come back from a text that joins them. Whatever names a request is made of, it selects
what the trimmed names would. -/
theorem fields_canonical (filters : List Filter) {limit : Int} (hLimit : 1 ≤ limit) :
    (∀ s : String, ∃ fields texts,
      Request.of? (Request.splitFields (some s)) filters limit = .ok ⟨fields, filters, limit⟩ ∧
      Request.Listed s texts ∧ Firsts texts fields ∧
      Request.of? fields filters limit = .ok ⟨fields, filters, limit⟩ ∧
      Request.splitFields (some (",".intercalate fields)) = fields) ∧
    ∀ names : List String, ∃ fields,
      Request.of? names filters limit = .ok ⟨fields, filters, limit⟩ ∧
      ∀ (settings : FetchSettings) (primary : Kind),
        settings.ownColumns primary ⟨fields, filters, limit⟩ =
            settings.ownColumns primary ⟨names.map Text.trim, filters, limit⟩ ∧
          settings.relatedColumns primary ⟨fields, filters, limit⟩ =
            settings.relatedColumns primary ⟨names.map Text.trim, filters, limit⟩ ∧
          settings.plan primary ⟨fields, filters, limit⟩ =
            settings.plan primary ⟨names.map Text.trim, filters, limit⟩ := by
  have hMade : ∀ names : List String, Request.of? names filters limit =
      .ok ⟨Request.normalize names, filters, limit⟩ :=
    fun names => if_neg (Int.not_lt.mpr hLimit)
  constructor
  · intro s
    obtain ⟨texts, hListed⟩ : ∃ texts, Request.Listed s texts :=
      ⟨_, Request.listed_iff.mpr rfl⟩
    have hFirsts := Request.normalize_splitFields hListed
    refine ⟨_, texts, hMade _, hListed, hFirsts, ?_, ?_⟩
    · rw [hMade, Request.normalize_normalize]
    · apply Request.splitFields_intercalate
      · intro x hx
        exact Request.trimmed_of_mem_normalize hx
      · intro hEmpty
        exact Request.ne_empty_of_mem_normalize hEmpty rfl
      · intro x hx
        exact hListed.comma_not_mem ((hFirsts.mem_iff x).mp hx).1
  · intro names
    have hFirsts := Request.firsts_normalize names
    refine ⟨Request.normalize names, hMade names, fun settings primary => ?_⟩
    exact ⟨hFirsts.ownColumns_eq, hFirsts.relatedColumns_eq, hFirsts.plan_eq⟩

/-- Blank and repeated names in a text and in a list. -/
theorem fields_canonical_repeated :
    (1 : Int) ≤ 5 ∧
      (∃ texts, Request.Listed " name,,\u2003id , name,adGroup.status" texts ∧
        Firsts texts ["name", "id", "adGroup.status"]) ∧
      Request.splitFields (some "name,id,adGroup.status") = ["name", "id", "adGroup.status"] ∧
      ∀ primary, FetchSettings.standard.plan primary ⟨["name"], [], 5⟩ =
        FetchSettings.standard.plan primary ⟨["name", "", "name"], [], 5⟩ := by
  have hLimit : (1 : Int) ≤ 5 := by decide
  obtain ⟨hTexts, hNames⟩ := fields_canonical [] hLimit
  obtain ⟨fields, texts, hMade, hListed, hFirsts, -, hSplit⟩ :=
    hTexts " name,,\u2003id , name,adGroup.status"
  obtain ⟨selected, hSelected, hColumns⟩ := hNames [" name", "\t", "name "]
  have hFields : ["name", "id", "adGroup.status"] = fields :=
    congrArg Request.fields (Except.ok.inj hMade)
  have hName : ["name"] = selected := congrArg Request.fields (Except.ok.inj hSelected)
  subst hFields hName
  exact ⟨hLimit, ⟨texts, hListed, hFirsts⟩, hSplit, fun primary => (hColumns _ primary).2.2⟩

end CampaignFetch

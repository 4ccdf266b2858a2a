import CampaignFetch.Proofs.ClauseReading
import CampaignFetch.Proofs.FetchPlans
import Mathlib.Data.List.TakeWhile

/-!
# What reaches the text of a query

The values of the filters are bound to placeholders. Nothing of them stands in the text: it depends
on the shape of the condition alone, and its placeholders count the values.

* `placeholderDigits` are the digits behind each dollar sign of a text.
* `Condition.erase` forgets the values of a condition; `JoinQuery.sql_erase` says that the text of a
  query does not depend on them.
* `JoinQuery.placeholderDigits_sql`: the placeholders of a query are numbered from one, each used
  once, in order.
* `query_text`: the texts and the values of the queries that requests are planned with.
-/

namespace CampaignFetch

/-! ## Placeholders in a text -/

/-- The digits behind each dollar sign. -/
def placeholderDigits : List Char → List (List Char)
  | [] => []
  | c :: cs =>
    if c = '$' then cs.takeWhile Char.isDigit :: placeholderDigits cs else placeholderDigits cs

/-- No digit is at the front. -/
def NoDigitFirst (cs : List Char) : Prop := ∀ c ∈ cs.head?, c.isDigit = false

theorem takeWhile_isDigit_append {cs ds : List Char} (h : NoDigitFirst ds) :
    (cs ++ ds).takeWhile Char.isDigit = cs.takeWhile Char.isDigit := by
  induction cs with
  | nil =>
    cases ds with
    | nil => rfl
    | cons d ds => simp [h d rfl]
  | cons c cs ih => simp only [List.cons_append, List.takeWhile_cons, ih]

theorem placeholderDigits_append {cs ds : List Char} (h : NoDigitFirst ds) :
    placeholderDigits (cs ++ ds) = placeholderDigits cs ++ placeholderDigits ds := by
  induction cs with
  | nil => rfl
  | cons c cs ih =>
    simp only [List.cons_append, placeholderDigits, ih, takeWhile_isDigit_append h]
    split <;> rfl

theorem placeholderDigits_eq_nil {cs : List Char} (h : '$' ∉ cs) : placeholderDigits cs = [] := by
  induction cs with
  | nil => rfl
  | cons c cs ih =>
    rw [placeholderDigits, if_neg (List.ne_of_not_mem_cons h).symm,
      ih (List.not_mem_of_not_mem_cons h)]

theorem placeholderDigits_append_left {cs ds : List Char} (h : '$' ∉ cs) :
    placeholderDigits (cs ++ ds) = placeholderDigits ds := by
  induction cs with
  | nil => rfl
  | cons c cs ih =>
    rw [List.cons_append, placeholderDigits, if_neg (List.ne_of_not_mem_cons h).symm,
      ih (List.not_mem_of_not_mem_cons h)]

/-- Between pieces of text stands something that neither goes on a number nor begins one. -/
theorem placeholderDigits_intercalate {separator : String} (hFirst : ∀ cs : List Char,
    NoDigitFirst (separator.toList ++ cs)) (hNone : '$' ∉ separator.toList) (pieces : List String) :
    placeholderDigits (separator.intercalate pieces).toList =
      pieces.flatMap fun piece => placeholderDigits piece.toList := by
  induction pieces with
  | nil => rfl
  | cons piece pieces ih =>
    cases pieces with
    | nil => simp
    | cons next pieces =>
      rw [String.intercalate_cons_of_ne_nil (List.cons_ne_nil _ _), String.toList_append,
        String.toList_append, List.append_assoc, placeholderDigits_append (hFirst _),
        placeholderDigits_append_left hNone, ih]
      rfl

theorem placeholderDigits_placeholder (number : Nat) :
    placeholderDigits (Condition.placeholder number).toList = [Nat.toDigits 10 number] := by
  have hAll : (Nat.toDigits 10 number).takeWhile Char.isDigit = Nat.toDigits 10 number :=
    List.takeWhile_eq_self_iff.mpr (Text.isDigit_toDigits number)
  have hNone : '$' ∉ Nat.toDigits 10 number := fun h => by
    have hDigit := Text.isDigit_toDigits number _ h
    revert hDigit
    decide
  rw [Sql.toList_placeholder, placeholderDigits, if_pos rfl, hAll,
    placeholderDigits_eq_nil hNone]

theorem Kind.dollar_not_mem_table (k : Kind) : '$' ∉ k.table.toList := by
  cases k <;> decide

theorem Column.dollar_not_mem_name (c : Column) : '$' ∉ c.name.toList := by
  cases c <;> decide

theorem Column.dollar_not_mem_qualified (c : Column) : '$' ∉ c.qualified.toList := by
  simp [Column.qualified, c.kind.dollar_not_mem_table, c.dollar_not_mem_name]

namespace Condition

theorem placeholderDigits_placeholders (bound count : Nat) :
    placeholderDigits (placeholders bound count).toList =
      (List.range' (bound + 1) count).map (Nat.toDigits 10) := by
  rw [placeholders, placeholderDigits_intercalate (fun cs c hc => by cases hc; rfl) (by decide),
    List.flatMap_map, List.range'_eq_map_range, List.map_map]
  simp only [placeholderDigits_placeholder]
  rw [← List.map_eq_flatMap]
  refine List.map_congr_left fun i _ => congrArg (Nat.toDigits 10) ?_
  exact Nat.add_right_comm bound i 1

theorem dollar_not_mem_textExpression (c : Column) : '$' ∉ (textExpression c).toList := by
  have hQualified := c.dollar_not_mem_qualified
  unfold textExpression
  cases c.type <;> simp [hQualified, timestampPattern]

mutual

/-- The placeholders of a clause count on from the values before it. -/
theorem placeholderDigits_render (bound : Nat) (c : Condition) :
    placeholderDigits (c.render bound).toList =
      (List.range' (bound + 1) c.values.length).map (Nat.toDigits 10) := by
  match c with
  | .equals column value =>
    -- a column is written without a dollar sign, so the first one begins the placeholder
    have hBefore : '$' ∉ ("lower(" ++ textExpression column ++ ") = lower(").toList := by
      have hColumn := dollar_not_mem_textExpression column
      simpa using hColumn
    rw [render, String.toList_append, String.toList_append, List.append_assoc,
      placeholderDigits_append_left hBefore,
      placeholderDigits_append (fun c hc => by cases hc; rfl), placeholderDigits_placeholder]
    rfl
  | .isIn column values =>
    rw [render, Condition.values]
    split
    · rename_i hEmpty
      rw [List.isEmpty_iff.mp hEmpty]
      exact placeholderDigits_eq_nil (by decide)
    · have hBefore : '$' ∉ (textExpression column ++ " IN (").toList := by
        have hColumn := dollar_not_mem_textExpression column
        simpa using hColumn
      rw [String.toList_append, String.toList_append, List.append_assoc,
        placeholderDigits_append_left hBefore,
        placeholderDigits_append (fun c hc => by cases hc; rfl), placeholderDigits_placeholders,
        placeholderDigits_eq_nil (by decide), List.append_nil]
  | .all members =>
    rw [render, placeholderDigits_intercalate (fun cs c hc => by cases hc; rfl) (by decide), values]
    exact placeholderDigits_renderMembers bound members
  | .any members =>
    rw [render, placeholderDigits_intercalate (fun cs c hc => by cases hc; rfl) (by decide), values]
    exact placeholderDigits_renderMembers bound members

theorem placeholderDigits_renderMembers (bound : Nat) (cs : List Condition) :
    ((renderMembers bound cs).flatMap fun clause => placeholderDigits clause.toList) =
      (List.range' (bound + 1) (valuesOfAll cs).length).map (Nat.toDigits 10) := by
  match cs with
  | [] => rfl
  | c :: cs =>
    have hClause : placeholderDigits ("(" ++ c.render bound ++ ")").toList =
        placeholderDigits (c.render bound).toList := by
      rw [String.toList_append, String.toList_append, List.append_assoc,
        placeholderDigits_append_left (by decide),
        placeholderDigits_append (fun c hc => by cases hc; rfl),
        placeholderDigits_eq_nil (by decide : '$' ∉ ")".toList), List.append_nil]
    have hNext : bound + c.values.length + 1 = bound + 1 + c.values.length := by omega
    rw [renderMembers, List.flatMap_cons, hClause, placeholderDigits_render bound c,
      placeholderDigits_renderMembers (bound + c.values.length) cs, hNext, ← List.map_append,
      List.range'_append_1, valuesOfAll, List.length_append]

end

end Condition

/-! ## Blanked values -/

namespace Condition

mutual

/-- The condition with blank values in place of its own. -/
def erase : Condition → Condition
  | .equals column _ => .equals column ""
  | .isIn column values => .isIn column (values.map fun _ => "")
  | .all members => .all (eraseAll members)
  | .any members => .any (eraseAll members)

/-- Conditions with blank values in place of their own. -/
def eraseAll : List Condition → List Condition
  | [] => []
  | c :: cs => erase c :: eraseAll cs

end

theorem eraseAll_eq_map (cs : List Condition) : eraseAll cs = cs.map erase := by
  induction cs with
  | nil => rfl
  | cons c cs ih => rw [eraseAll, ih, List.map_cons]

mutual

theorem length_values_erase (c : Condition) : c.erase.values.length = c.values.length := by
  match c with
  | .equals _ _ => rfl
  | .isIn _ values => simp [erase, Condition.values]
  | .all members => simpa [erase, Condition.values] using length_valuesOfAll_eraseAll members
  | .any members => simpa [erase, Condition.values] using length_valuesOfAll_eraseAll members

theorem length_valuesOfAll_eraseAll (cs : List Condition) :
    (valuesOfAll (eraseAll cs)).length = (valuesOfAll cs).length := by
  match cs with
  | [] => rfl
  | c :: cs =>
    rw [eraseAll, valuesOfAll, valuesOfAll, List.length_append, List.length_append,
      length_values_erase c, length_valuesOfAll_eraseAll cs]

end

mutual

/-- The clause of a condition is the same for all values, as long as there are as many of them. -/
theorem render_erase (bound : Nat) (c : Condition) : c.erase.render bound = c.render bound := by
  match c with
  | .equals _ _ => rfl
  | .isIn _ values => simp [erase, render]
  | .all members => rw [erase, render, render, renderMembers_eraseAll bound members]
  | .any members => rw [erase, render, render, renderMembers_eraseAll bound members]

theorem renderMembers_eraseAll (bound : Nat) (cs : List Condition) :
    renderMembers bound (eraseAll cs) = renderMembers bound cs := by
  match cs with
  | [] => rfl
  | c :: cs =>
    rw [eraseAll, renderMembers, renderMembers, render_erase bound c, length_values_erase,
      renderMembers_eraseAll _ cs]

end

mutual

/-- The columns that are compared, from left to right, each with the values it is compared with. -/
def comparisons : Condition → List (Column × List String)
  | .equals column value => [(column, [value])]
  | .isIn column values => [(column, values)]
  | .all members => comparisonsOfAll members
  | .any members => comparisonsOfAll members

/-- The comparisons of several conditions, in order. -/
def comparisonsOfAll : List Condition → List (Column × List String)
  | [] => []
  | c :: cs => comparisons c ++ comparisonsOfAll cs

end

mutual

theorem values_eq_flatMap (c : Condition) : c.values = c.comparisons.flatMap (·.2) := by
  match c with
  | .equals _ _ => rfl
  | .isIn _ values => simp [Condition.values, comparisons]
  | .all members => rw [Condition.values, comparisons, valuesOfAll_eq_flatMap members]
  | .any members => rw [Condition.values, comparisons, valuesOfAll_eq_flatMap members]

theorem valuesOfAll_eq_flatMap (cs : List Condition) :
    valuesOfAll cs = (comparisonsOfAll cs).flatMap (·.2) := by
  match cs with
  | [] => rfl
  | c :: cs =>
    rw [valuesOfAll, comparisonsOfAll, List.flatMap_append, values_eq_flatMap c,
      valuesOfAll_eq_flatMap cs]

end

end Condition

/-! ## Queries -/

namespace JoinQuery

/-- The projected columns in the text of a query. -/
def columnsText (projection : List Column) : String :=
  ", ".intercalate (projection.map fun c => c.qualified ++ " AS \"" ++ c.label ++ "\"")

/-- The joined tables in the text of a query. -/
def tablesText (primary : Kind) (join : Join) : String :=
  " FROM \"" ++ primary.table ++ "\" " ++ join.words ++ " \"" ++ primary.other.table ++ "\" ON " ++
    Column.adGroupCampaignId.qualified ++ " = " ++ Column.campaignId.qualified

/-- The clause of the condition in the text of a query. -/
def whereText : Option Condition → String
  | some c => " WHERE " ++ c.render 0
  | none => ""

/-- The order in the text of a query. -/
def orderText (primary : Kind) : String :=
  " ORDER BY " ++ primary.identity.qualified ++ " ASC, " ++ primary.other.identity.qualified ++
    " ASC"

theorem sql_eq (q : JoinQuery) :
    q.sql = "SELECT " ++ (columnsText q.projection ++ (tablesText q.primary q.join ++
      (whereText q.condition ++ orderText q.primary))) := by
  obtain ⟨primary, join, projection, condition⟩ := q
  apply String.toList_inj.mp
  unfold sql related columnsText tablesText whereText orderText
  cases condition <;> simp only [String.toList_append, List.append_assoc]

theorem placeholderDigits_columnsText (projection : List Column) :
    placeholderDigits (columnsText projection).toList = [] := by
  rw [columnsText, placeholderDigits_intercalate (fun cs c hc => by cases hc; rfl) (by decide),
    List.flatMap_map, List.flatMap_eq_nil_iff]
  intro c _
  apply placeholderDigits_eq_nil
  simp [Column.label, c.dollar_not_mem_qualified, c.dollar_not_mem_name, Kind.dollar_not_mem_table]

theorem dollar_not_mem_tablesText (primary : Kind) (join : Join) :
    '$' ∉ (tablesText primary join).toList := by
  have hWords : '$' ∉ join.words.toList := by cases join <;> decide
  unfold tablesText
  simp [hWords, Kind.dollar_not_mem_table, Column.dollar_not_mem_qualified]

theorem dollar_not_mem_orderText (primary : Kind) : '$' ∉ (orderText primary).toList := by
  unfold orderText
  simp [Column.dollar_not_mem_qualified]

theorem whereText_erase (condition : Option Condition) :
    whereText (condition.map Condition.erase) = whereText condition := by
  cases condition with
  | none => rfl
  | some c => exact congrArg (" WHERE " ++ ·) (c.render_erase 0)

theorem placeholderDigits_whereText (condition : Option Condition) :
    placeholderDigits (whereText condition).toList =
      (List.range' 1 ((condition.map Condition.values).getD []).length).map (Nat.toDigits 10) := by
  cases condition with
  | none => rfl
  | some c =>
    rw [whereText, String.toList_append, placeholderDigits_append_left (by decide),
      Condition.placeholderDigits_render]
    rfl

/-- The query with blank values in its condition. -/
def erase (q : JoinQuery) : JoinQuery := { q with condition := q.condition.map Condition.erase }

/-- The text of a query does not depend on the values in its condition. -/
theorem sql_erase (q : JoinQuery) : q.erase.sql = q.sql := by
  rw [sql_eq, sql_eq, erase, whereText_erase]

/-- The placeholders of a query are numbered from one, in order. -/
theorem placeholderDigits_sql (q : JoinQuery) :
    placeholderDigits q.sql.toList = (List.range' 1 q.values.length).map (Nat.toDigits 10) := by
  have hTables : ∀ cs, NoDigitFirst ((tablesText q.primary q.join).toList ++ cs) := by
    intro cs c hc
    unfold tablesText at hc
    simp only [String.toList_append, List.append_assoc] at hc
    cases hc
    rfl
  have hOrder : NoDigitFirst (orderText q.primary).toList := by
    intro c hc
    unfold orderText at hc
    simp only [String.toList_append, List.append_assoc] at hc
    cases hc
    rfl
  rw [sql_eq]
  simp only [String.toList_append]
  rw [placeholderDigits_append_left (by decide), placeholderDigits_append (hTables _),
    placeholderDigits_columnsText, placeholderDigits_append_left (dollar_not_mem_tablesText _ _),
    placeholderDigits_append hOrder, placeholderDigits_whereText,
    placeholderDigits_eq_nil (dollar_not_mem_orderText _), List.append_nil]
  rfl

theorem values_eq_flatMap (q : JoinQuery) :
    q.values = (q.condition.toList.flatMap Condition.comparisons).flatMap (·.2) := by
  rw [values]
  cases q.condition with
  | none => rfl
  | some c => simp [Condition.values_eq_flatMap c]

end JoinQuery

/-! ## Requests -/

/-- The column that a name means. -/
def meant? (primary : Kind) (name : String) : Option Column :=
  (scope primary name).1.column? (scope primary name).2

theorem meant?_eq_some_iff {primary : Kind} {name : String} {c : Column} :
    meant? primary name = some c ↔ c.NamedBy primary name := by
  rw [meant?, Kind.column?_eq_some_iff, ← scope_eq_iff, Prod.ext_iff]
  exact and_congr eq_comm eq_comm

namespace Filter

/-- What is left of a filter on a column without the name and the values. -/
structure Shape where
  column : Column
  operator : Operator
  count : Nat
  deriving DecidableEq

/-- The shape of a filter whose name means a column. -/
def shape? (primary : Kind) (f : Filter) : Option Shape :=
  (meant? primary f.field).map fun c => ⟨c, f.operator, f.values.length⟩

/-- The condition of a shape in the half of a kind, with blank values. -/
def Shape.condition? (target : Kind) (shape : Shape) : Option Condition :=
  if shape.column.kind = target then
    Filter.condition? ⟨"", shape.operator, List.replicate shape.count ""⟩ shape.column
  else none

theorem conditionFor?_eq_bind (primary target : Kind) (f : Filter) :
    f.conditionFor? primary target =
      (meant? primary f.field).bind fun c => if c.kind = target then f.condition? c else none := by
  refine Option.ext fun condition => ?_
  simp only [conditionFor?_eq_some_iff, Option.bind_eq_some_iff, meant?_eq_some_iff]
  constructor
  · rintro ⟨c, hKind, hName, hCondition⟩
    exact ⟨c, hName, by rw [if_pos hKind, hCondition]⟩
  · rintro ⟨c, hName, hCondition⟩
    by_cases hKind : c.kind = target
    · rw [if_pos hKind] at hCondition
      exact ⟨c, hKind, hName, hCondition⟩
    · rw [if_neg hKind] at hCondition
      cases hCondition

theorem erase_condition? (f : Filter) (c : Column) :
    (f.condition? c).map Condition.erase =
      Filter.condition? ⟨"", f.operator, List.replicate f.values.length ""⟩ c := by
  have hBlank : f.values.map (fun _ => "") = List.replicate f.values.length "" :=
    List.map_const' ..
  unfold condition?
  rw [← hBlank]
  cases f.operator with
  | unsupported text => rfl
  | isIn => rfl
  | equals =>
    match f.values with
    | [] => rfl
    | [_] => rfl
    | v :: w :: values =>
      have hErased : ((v :: w :: values).map (Condition.equals c)).map Condition.erase =
          ((v :: w :: values).map fun _ => "").map (Condition.equals c) := by
        rw [List.map_map, List.map_map]
        rfl
      exact congrArg (fun members => some (Condition.any members))
        ((Condition.eraseAll_eq_map _).trans hErased)

/-- The filter's values are those of its condition. -/
theorem values_condition? {f : Filter} {c : Column} {condition : Condition}
    (h : f.condition? c = some condition) : condition.values = f.values := by
  have hEquals : ∀ values : List String,
      Condition.valuesOfAll (values.map (Condition.equals c)) = values := by
    intro values
    induction values with
    | nil => rfl
    | cons v values ih => simp [Condition.valuesOfAll, Condition.values, ih]
  unfold condition? at h
  cases hOperator : f.operator with
  | unsupported text => simp [hOperator] at h
  | isIn =>
    simp only [hOperator, Option.some.injEq] at h
    rw [← h, Condition.values]
  | equals =>
    simp only [hOperator, Option.some.injEq] at h
    rw [← h]
    match f.values with
    | [] => simp [Condition.anyOf, Condition.values]
    | [v] => simp [Condition.anyOf, Condition.values]
    | v :: w :: values =>
      simp only [Condition.anyOf, List.map_cons, Option.getD_some, Condition.values]
      exact hEquals (v :: w :: values)

/-- Blanked, the conditions in the half of a kind depend on the shapes of the filters alone. -/
theorem erase_conditionsFor (primary target : Kind) (filters : List Filter) :
    (filters.filterMap (conditionFor? primary target)).map Condition.erase =
      (filters.filterMap (shape? primary)).filterMap (Shape.condition? target) := by
  have hEach : ∀ f : Filter, (f.conditionFor? primary target).map Condition.erase =
      (f.shape? primary).bind (Shape.condition? target) := by
    intro f
    rw [conditionFor?_eq_bind, shape?]
    cases meant? primary f.field with
    | none => rfl
    | some c =>
      simp only [Option.bind_some, Option.map_some, Shape.condition?]
      split
      · exact f.erase_condition? c
      · rfl
  rw [List.map_filterMap, List.filterMap_filterMap]
  exact congrArg (List.filterMap · filters) (funext hEach)

/-- The name of the filter means a column of the kind. -/
def MeansOn (primary target : Kind) (f : Filter) : Prop :=
  ∃ c : Column, c.kind = target ∧ c.NamedBy primary f.field

instance (primary target : Kind) : DecidablePred (MeansOn primary target) := fun f =>
  decidable_of_iff (∃ c ∈ target.columns, c.NamedBy primary f.field) (by
    simp only [MeansOn, mem_columns_iff])

theorem values_conditionsFor {primary target : Kind} {filters : List Filter}
    (hSupported : ∀ f ∈ filters, f.Supported) :
    (filters.filterMap (conditionFor? primary target)).flatMap Condition.values =
      (filters.filter (MeansOn primary target)).flatMap (·.values) := by
  induction filters with
  | nil => rfl
  | cons f filters ih =>
    have hRest := ih fun g hg => hSupported g (List.mem_cons_of_mem _ hg)
    by_cases hMeans : f.MeansOn primary target
    · obtain ⟨c, hKind, hName⟩ := id hMeans
      obtain ⟨condition, hCondition, -⟩ :=
        holds_condition? (hSupported f List.mem_cons_self) c Row.empty
      have hFor := conditionFor?_eq_some_iff.mpr ⟨c, hKind, hName, hCondition⟩
      rw [List.filterMap_cons_some hFor, List.filter_cons, if_pos (decide_eq_true hMeans),
        List.flatMap_cons, List.flatMap_cons, hRest, values_condition? hCondition]
    · have hFor : f.conditionFor? primary target = none := by
        refine Option.eq_none_iff_forall_ne_some.mpr fun condition h => hMeans ?_
        obtain ⟨c, hKind, hName, -⟩ := conditionFor?_eq_some_iff.mp h
        exact ⟨c, hKind, hName⟩
      rw [List.filterMap_cons_none hFor, List.filter_cons, if_neg (by simpa using hMeans), hRest]

end Filter

namespace Condition

theorem erase_allOf (cs : List Condition) :
    (allOf cs).map erase = allOf (cs.map erase) := by
  match cs with
  | [] => rfl
  | [c] => rfl
  | c :: d :: cs => simp [allOf, erase, eraseAll_eq_map]

theorem valuesOfAll_eq_flatMap_values (cs : List Condition) :
    valuesOfAll cs = cs.flatMap Condition.values := by
  induction cs with
  | nil => rfl
  | cons c cs ih => rw [valuesOfAll, ih, List.flatMap_cons]

theorem values_allOf (cs : List Condition) :
    ((allOf cs).map Condition.values).getD [] = cs.flatMap Condition.values := by
  match cs with
  | [] => rfl
  | [c] => simp [allOf]
  | c :: d :: cs => simp [allOf, Condition.values, valuesOfAll_eq_flatMap_values]

theorem flatMap_values_allOf (cs : List Condition) :
    (allOf cs).toList.flatMap Condition.values = cs.flatMap Condition.values := by
  rw [← values_allOf cs]
  cases allOf cs <;> simp

end Condition

namespace JoinQuery

/-- Blanked, the query made from filters depends on the shapes of the filters alone. -/
theorem erase_of_ofSupported (primary : Kind) (own related : List Column) (filters : List Filter) :
    (JoinQuery.of primary own related (.ofSupported primary filters)).erase =
      .of primary own related
        ⟨Condition.allOf ((filters.filterMap (Filter.shape? primary)).filterMap
            (Filter.Shape.condition? primary)),
          Condition.allOf ((filters.filterMap (Filter.shape? primary)).filterMap
            (Filter.Shape.condition? primary.other))⟩ := by
  have hHalf : ∀ cs : List Condition,
      (Condition.allOf cs).toList.map Condition.erase =
        (Condition.allOf (cs.map Condition.erase)).toList := by
    intro cs
    rw [← Condition.erase_allOf]
    cases Condition.allOf cs <;> rfl
  simp only [erase, JoinQuery.of, Restriction.ofSupported, Condition.erase_allOf, List.map_append,
    hHalf, Filter.erase_conditionsFor]

theorem values_of_ofSupported {primary : Kind} {own related : List Column} {filters : List Filter}
    (hSupported : ∀ f ∈ filters, f.Supported) :
    (JoinQuery.of primary own related (.ofSupported primary filters)).values =
      (filters.filter (Filter.MeansOn primary primary) ++
        filters.filter (Filter.MeansOn primary primary.other)).flatMap (·.values) := by
  simp only [values, JoinQuery.of, Restriction.ofSupported, Condition.values_allOf,
    List.flatMap_append, Condition.flatMap_values_allOf, Filter.values_conditionsFor hSupported]

end JoinQuery

/-- Two requests with the same columns, and with filters that differ in values and in names that
mean nothing, are planned with the same text. In the text of a query the placeholders are numbered
from one, each used once, for the values of its condition from left to right; of a request these
are the values of the filters on the primary kind and then of those on the related one. -/
theorem query_text :
    (∀ (s s' : FetchSettings) (primary : Kind) (r r' : Request) (plan plan' : FetchPlan),
      s.plan primary r = .ok plan → s'.plan primary r' = .ok plan' →
      plan.own = plan'.own → plan.related = plan'.related →
      r.filters.filterMap (Filter.shape? primary) = r'.filters.filterMap (Filter.shape? primary) →
        plan.query.statement.sql = plan'.query.statement.sql) ∧
      (∀ q : JoinQuery,
        placeholderDigits q.statement.sql.toList =
            (List.range' 1 q.statement.params.length).map (Nat.toDigits 10) ∧
          q.statement.params =
            ((q.condition.toList.flatMap Condition.comparisons).flatMap (·.2)).map .text) ∧
      ∀ (s : FetchSettings) (primary : Kind) (r : Request) (plan : FetchPlan),
        s.plan primary r = .ok plan →
          plan.query.statement.params =
            ((r.filters.filter (Filter.MeansOn primary primary) ++
              r.filters.filter (Filter.MeansOn primary primary.other)).flatMap (·.values)).map
                .text := by
  refine ⟨?_, fun q => ⟨?_, ?_⟩, ?_⟩
  · intro s s' primary r r' plan plan' hPlan hPlan' hOwn hRelated hShapes
    obtain ⟨-, rfl⟩ := FetchSettings.plan_eq_ok hPlan
    obtain ⟨-, rfl⟩ := FetchSettings.plan_eq_ok hPlan'
    have hErase : (s.joinQuery primary r).erase = (s'.joinQuery primary r').erase := by
      simp only [FetchSettings.planOf] at hOwn hRelated
      rw [FetchSettings.joinQuery, FetchSettings.joinQuery, JoinQuery.erase_of_ofSupported,
        JoinQuery.erase_of_ofSupported, hOwn, hRelated, hShapes]
    have hSql := congrArg JoinQuery.sql hErase
    rwa [JoinQuery.sql_erase, JoinQuery.sql_erase] at hSql
  · rw [JoinQuery.statement, List.length_map]
    exact q.placeholderDigits_sql
  · rw [JoinQuery.statement, q.values_eq_flatMap]
  · intro s primary r plan hPlan
    obtain ⟨hAccepted, rfl⟩ := FetchSettings.plan_eq_ok hPlan
    exact congrArg (List.map Param.text) (JoinQuery.values_of_ofSupported hAccepted.2)

/-- Values and a name that look like parts of a statement leave the text as it is. -/
theorem query_text_hostile :
    ∃ plan plan',
      FetchSettings.standard.plan .campaign
          ⟨["name", "id\" FROM secrets --"], [⟨"name", .equals, ["$9) OR (1 = 1"]⟩,
            ⟨"1 = 1 OR name", .isIn, ["$1"]⟩, ⟨"adGroup.id", .isIn, ["7); --", ""]⟩], 5⟩ =
          .ok plan ∧
        FetchSettings.standard.plan .campaign
          ⟨["campaign.name"], [⟨"campaign.name", .equals, ["Brand"]⟩,
            ⟨"adGroup.id", .isIn, ["1", "2"]⟩], 1⟩ = .ok plan' ∧
        plan.query.statement.sql = plan'.query.statement.sql ∧
        plan.query.statement.params = [.text "$9) OR (1 = 1", .text "7); --", .text ""] ∧
        placeholderDigits plan.query.statement.sql.toList = [['1'], ['2'], ['3']] := by
  have hPlan : FetchSettings.standard.plan .campaign
      ⟨["name", "id\" FROM secrets --"], [⟨"name", .equals, ["$9) OR (1 = 1"]⟩,
        ⟨"1 = 1 OR name", .isIn, ["$1"]⟩, ⟨"adGroup.id", .isIn, ["7); --", ""]⟩], 5⟩ = _ :=
    FetchSettings.plan_eq (by decide)
  have hPlan' : FetchSettings.standard.plan .campaign
      ⟨["campaign.name"], [⟨"campaign.name", .equals, ["Brand"]⟩,
        ⟨"adGroup.id", .isIn, ["1", "2"]⟩], 1⟩ = _ := FetchSettings.plan_eq (by decide)
  have hSql := query_text.1 _ _ _ _ _ _ _ hPlan hPlan' (by decide +kernel) (by decide +kernel)
    (by decide +kernel)
  have hParams := (query_text.2.2 _ _ _ _ hPlan).trans (by decide +kernel :
    _ = [.text "$9) OR (1 = 1", .text "7); --", .text ""])
  refine ⟨_, _, hPlan, hPlan', hSql, hParams, ?_⟩
  rw [(query_text.2.1 _).1, hParams]
  decide

end CampaignFetch

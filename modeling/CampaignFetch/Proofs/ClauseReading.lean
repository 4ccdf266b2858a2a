import CampaignFetch.Fetch.JoinQuery
import CampaignFetch.Proofs.FilterMeaning
import CampaignFetch.Proofs.Sql.Evaluation
import Mathlib.Logic.ExistsUnique

/-!
# Clauses mean what conditions mean

The clause of a condition without empty groups has exactly one reading, and on every row it is true
exactly when the condition holds, whatever values stand before and after its own.

* `Condition.IsReading`: a derivation is spelled by the clause and evaluated like the condition.
* `Condition.exists_reading`: every condition without empty groups has one, whatever the number of
  values before its own.
* `clause_meaning`: the reading is the only one; the conditions of joins have no empty groups.
-/

namespace CampaignFetch

open Sql

/-! ## Columns -/

namespace Sql

/-- An expression without operators as a clause. -/
def Tree.clause (t : Tree .typed) : Clause := .one .or (.one .and (.one .equal (.plain t)))

/-- The derivation of a qualified column. -/
def columnTree (c : Column) : Tree .atom := .column c.kind.table c.name

/-- The derivation of the text form of a column. -/
def textTree (c : Column) : Tree .typed :=
  match c.type with
  | .text => .typed (columnTree c) []
  | .integer => .typed (columnTree c) ["text"]
  | .timestamp => .typed (.call "to_char" (.more .comma (Tree.clause (.typed (columnTree c) []))
      (.one .comma (Tree.clause (.typed (.literal Condition.timestampPattern) []))))) []

theorem eval_columnTree (s : Scope) (c : Column) : (columnTree c).eval s = some (s.column c) := by
  have hColumn : Scope.column? c.kind.table c.name = some c := by
    cases c <;> decide
  simp [columnTree, Tree.eval, hColumn]

/-- The text form of a column is its text in rows. -/
theorem eval_textTree (s : Scope) (c : Column) :
    (textTree c).eval s = some (.ofText? (s.row.text? c)) := by
  unfold textTree
  cases hType : c.type <;> cases hText : s.row.text? c <;>
    simp [Tree.eval, Tree.clause, eval_columnTree, Scope.column, hType, hText, Value.cast,
      Value.call, Value.ofText?]

theorem spells_columnTree (c : Column) : Spells c.qualified.toList (columnTree c).tokens := by
  have hTable : '"' ∉ c.kind.table.toList := by cases c <;> decide
  have hName : '"' ∉ c.name.toList := by cases c <;> decide
  have hSpells := (Spells.name hTable).append (.mark (c := '.') rfl (.name hName)) (by decide)
  simpa [Column.qualified, columnTree, Tree.tokens] using hSpells

theorem spells_textTree (c : Column) :
    Spells (Condition.textExpression c).toList (textTree c).tokens := by
  have hColumn := spells_columnTree c
  unfold Condition.textExpression textTree
  cases c.type with
  | text => simpa [Tree.tokens, castTokens] using hColumn
  | integer =>
    have hText : Spells ['t', 'e', 'x', 't'] [.word "text"] := .word rfl (by decide)
    have hSpells := hColumn.append hText.cast (by decide)
    simpa [Tree.tokens, castTokens] using hSpells
  | timestamp =>
    have hPattern : Spells ('\'' :: Condition.timestampPattern.toList ++ ['\''])
        [.literal Condition.timestampPattern] := by
      rw [← String.ofList_toList (s := Condition.timestampPattern)]
      exact .literal (by decide)
    have hFunction : Spells ['t', 'o', '_', 'c', 'h', 'a', 'r'] [.word "to_char"] :=
      .word rfl (by decide)
    have hArguments := hColumn.append (.mark (c := ',') rfl hPattern.blank) (by decide)
    have hSpells := hFunction.append hArguments.parens (by decide)
    simpa [Tree.tokens, Tree.clause, castTokens, Link.token] using hSpells

/-! ## Placeholders -/

/-- The derivation of a placeholder. -/
def paramTree (number : Nat) : Tree .typed := .typed (.param number) []

/-- The derivation of one placeholder more than `count`, numbered after `bound`. -/
def paramsTree (bound : Nat) : Nat → Tree (.linked .comma)
  | 0 => .one .comma (Tree.clause (paramTree (bound + 1)))
  | count + 1 =>
    .more .comma (Tree.clause (paramTree (bound + 1))) (paramsTree (bound + 1) count)

theorem eval_paramTree (row : Row) (before after : List Json) (value : String) :
    (paramTree (before.length + 1)).eval ⟨row, before ++ .string value :: after⟩ =
      some (.text value) := by
  simp [paramTree, Tree.eval, Scope.param?]

theorem eval_paramsTree (row : Row) (before after : List Json) (value : String)
    (values : List String) :
    (paramsTree before.length values.length).eval
        ⟨row, before ++ (value :: values).map Json.string ++ after⟩ =
      some ((value :: values).map Value.text) := by
  induction values generalizing before value with
  | nil => simp [paramsTree, Tree.eval, Tree.clause, eval_paramTree]
  | cons next values ih =>
    have hRest := ih (before ++ [.string value]) next
    have hFirst := eval_paramTree row before ((next :: values).map Json.string ++ after) value
    simp only [List.length_append, List.length_singleton, List.append_assoc, List.nil_append,
      List.map_cons, List.cons_append] at hRest hFirst
    simp [paramsTree, Tree.eval, Tree.clause, hFirst, hRest]

theorem toList_placeholder (number : Nat) :
    (Condition.placeholder number).toList = '$' :: Nat.toDigits 10 number := by
  simp [Condition.placeholder, Text.ofInt]

theorem spells_paramTree (number : Nat) :
    Spells (Condition.placeholder number).toList (paramTree number).tokens := by
  rw [toList_placeholder]
  exact .param number

theorem placeholders_succ (bound count : Nat) :
    Condition.placeholders bound (count + 2) =
      Condition.placeholder (bound + 1) ++ ", " ++
        Condition.placeholders (bound + 1) (count + 1) := by
  have hShift : (List.range (count + 1)).map
      ((fun i => Condition.placeholder (bound + i + 1)) ∘ Nat.succ) =
      (List.range (count + 1)).map fun i => Condition.placeholder (bound + 1 + i + 1) := by
    refine List.map_congr_left fun i _ => ?_
    rw [Function.comp_apply, Nat.succ_eq_add_one, Nat.add_right_comm bound 1 i,
      Nat.add_assoc bound i]
  rw [Condition.placeholders, List.range_succ_eq_map, List.map_cons, List.map_map, hShift,
    String.intercalate_cons_of_ne_nil (by simp)]
  rfl

theorem spells_paramsTree (bound count : Nat) :
    Spells (Condition.placeholders bound (count + 1)).toList (paramsTree bound count).tokens := by
  induction count generalizing bound with
  | zero => simpa [Condition.placeholders, paramsTree, Tree.tokens, Tree.clause] using
      spells_paramTree (bound + 1)
  | succ count ih =>
    have hRest : Spells (',' :: ' ' :: (Condition.placeholders (bound + 1) (count + 1)).toList)
        (.comma :: (paramsTree (bound + 1) count).tokens) := .mark rfl (ih (bound + 1)).blank
    have hSpells := (spells_paramTree (bound + 1)).append hRest (by decide)
    rw [placeholders_succ]
    simpa [paramsTree, Tree.tokens, Tree.clause, Link.token] using hSpells

/-- A text that may be null is one of some texts when it is not null and among them. -/
theorem isIn_texts (text : Option String) (values : List String) :
    ∃ b, (Value.ofText? text).isIn (values.map Value.text) = some b ∧
      (b = some true ↔ (text.any fun t => values.contains t) = true) := by
  induction values with
  | nil => exact ⟨some false, rfl, by cases text <;> simp⟩
  | cons value values ih =>
    obtain ⟨b, hEval, hIff⟩ := ih
    cases text with
    | none =>
      simp only [Value.ofText?] at hEval
      refine ⟨.or none b, by simp [Value.isIn, Value.equal, Value.ofText?, hEval], ?_⟩
      simpa [Logic.or_eq_true_iff] using hIff
    | some t =>
      simp only [Value.ofText?] at hEval
      refine ⟨.or (some (t = value)) b, by simp [Value.isIn, Value.equal, Value.ofText?, hEval], ?_⟩
      simp [Logic.or_eq_true_iff, hIff]

end Sql

/-! ## Conditions -/

namespace Condition

/-- No group of the condition is empty, at any depth. -/
inductive NoEmptyGroup : Condition → Prop where
  | equals (column : Column) (value : String) : NoEmptyGroup (.equals column value)
  | isIn (column : Column) (values : List String) : NoEmptyGroup (.isIn column values)
  | all {members : List Condition} (hNonempty : members ≠ [])
      (hMembers : ∀ c ∈ members, NoEmptyGroup c) : NoEmptyGroup (.all members)
  | any {members : List Condition} (hNonempty : members ≠ [])
      (hMembers : ∀ c ∈ members, NoEmptyGroup c) : NoEmptyGroup (.any members)

/-- The clause of the condition, when so many values stand before its own, spells the derivation,
and the derivation is true on a row exactly when the condition holds. -/
structure IsReading (c : Condition) (bound : Nat) (clause : Clause) : Prop where
  spells : Spells (c.render bound).toList clause.tokens
  evaluates : ∀ (row : Row) (before after : List Json), before.length = bound →
    ∃ b, clause.eval ⟨row, before ++ c.values.map Json.string ++ after⟩ = some (.ofLogic b) ∧
      (b = some true ↔ c.holds row = true)

/-! ### Comparisons -/

/-- A comparison of two expressions without operators. -/
def comparison (left right : Tree .typed) : Clause :=
  .one .or (.one .and (.more .equal (.plain left) (.plain right)))

/-- The derivation of a text in lowercase. -/
def lowerTree (text : Tree .typed) : Tree .typed :=
  .typed (.call "lower" (.one .comma (Tree.clause text))) []

theorem spells_lowerTree {cs : List Char} {text : Tree .typed} (h : Spells cs text.tokens) :
    Spells (['l', 'o', 'w', 'e', 'r'] ++ '(' :: (cs ++ [')'])) (lowerTree text).tokens := by
  have hWord : Spells ['l', 'o', 'w', 'e', 'r'] [.word "lower"] := .word rfl (by decide)
  simpa [lowerTree, Tree.tokens, Tree.clause, castTokens] using hWord.append h.parens (by decide)

theorem isReading_equals (column : Column) (value : String) (bound : Nat) :
    (equals column value).IsReading bound
      (comparison (lowerTree (textTree column)) (lowerTree (paramTree (bound + 1)))) where
  spells := by
    have hRight := spells_lowerTree (spells_paramTree (bound + 1))
    have hSpells := (spells_lowerTree (spells_textTree column)).append
      (.blank (.mark (c := '=') rfl (.blank hRight))) (by decide)
    simpa [render, comparison, Tree.tokens, Link.token] using hSpells
  evaluates := by
    rintro row before after rfl
    have hParam := eval_paramTree row before after value
    cases hText : row.text? column with
    | none =>
      refine ⟨none, ?_, by simp [holds, hText]⟩
      simp [comparison, lowerTree, Tree.eval, Tree.clause, eval_textTree, hText, Value.ofText?,
        Value.call, Value.equal, values, hParam]
    | some t =>
      refine ⟨some (sameLowercase t value), ?_, by simp [holds, hText]⟩
      simp [comparison, lowerTree, Tree.eval, Tree.clause, eval_textTree, hText, Value.ofText?,
        Value.call, Value.equal, values, hParam, sameLowercase]

/-- The derivation of membership in a list. -/
def membership (text : Tree .typed) (items : Tree (.linked .comma)) : Clause :=
  .one .or (.one .and (.one .equal (.isIn text items)))

theorem exists_reading_isIn (column : Column) (values : List String) (bound : Nat) :
    ∃ clause, (isIn column values).IsReading bound clause := by
  cases values with
  | nil =>
    -- no value is written as `1 = 0`
    refine ⟨comparison (.typed (.number 1) []) (.typed (.number 0) []), ?_, ?_⟩
    · have hZero : Spells ['0'] [.number 0] := .number rfl
      have hOne : Spells ['1'] [.number 1] := .number rfl
      have hSpells := hOne.append (.blank (.mark (c := '=') rfl (.blank hZero))) (by decide)
      simpa [render, comparison, Tree.tokens, Link.token, castTokens] using hSpells
    · intro row before after _
      refine ⟨some false, ?_, ?_⟩
      · simp [comparison, Tree.eval, Value.equal]
      · cases hText : row.text? column <;> simp [holds, hText]
  | cons value values =>
    refine ⟨membership (textTree column) (paramsTree bound values.length), ?_, ?_⟩
    · have hIn : Spells ['I', 'N'] [.isIn] := .word rfl (by decide)
      have hItems := hIn.append (.blank (spells_paramsTree bound values.length).parens) (by decide)
      have hSpells := (spells_textTree column).append hItems.blank (by decide)
      simpa [render, membership, Tree.tokens] using hSpells
    · rintro row before after rfl
      obtain ⟨b, hEval, hIff⟩ := isIn_texts (row.text? column) (value :: values)
      have hItems := eval_paramsTree row before after value values
      refine ⟨b, ?_, ?_⟩
      · simp only [membership, Tree.eval, eval_textTree, Condition.values, hItems,
          Option.bind_eq_bind, Option.bind_some, hEval]
        rfl
      · simpa [holds] using hIff

/-! ### Groups -/

/-- The two ways to join conditions in a group. -/
inductive Junction where
  | all
  | any

namespace Junction

/-- The group of some conditions. -/
def condition : Junction → List Condition → Condition
  | all => .all
  | any => .any

/-- The word between the members of a group. -/
def word : Junction → String
  | all => " AND "
  | any => " OR "

/-- The link between the members of a group. -/
abbrev link : Junction → Link
  | all => .and
  | any => .or

/-- The connective of three truth values. -/
def connective : Junction → Logic → Logic → Logic
  | all => Logic.and
  | any => Logic.or

/-- A member of a group, in parentheses. -/
def memberTree (j : Junction) (clause : Clause) : Tree j.link.member :=
  let comparison : Tree (.linked .equal) := .one .equal (.plain (.typed (.group clause) []))
  match j with
  | all => comparison
  | any => .one .and comparison

/-- A member linked to further ones. -/
def linkTree (j : Junction) (first : Tree j.link.member) (others : Tree (.linked j.link)) :
    Tree (.linked j.link) :=
  match j with
  | all => .more .and first others
  | any => .more .or first others

/-- A group as a clause. -/
def clauseTree (j : Junction) (chain : Tree (.linked j.link)) : Clause :=
  match j with
  | all => .one .or chain
  | any => chain

theorem tokens_memberTree (j : Junction) (clause : Clause) :
    (j.memberTree clause).tokens = .openParen :: (clause.tokens ++ [.closeParen]) := by
  cases j <;> simp [memberTree, Tree.tokens, castTokens]

theorem tokens_linkTree (j : Junction) (first : Tree j.link.member)
    (others : Tree (.linked j.link)) :
    (j.linkTree first others).tokens = first.tokens ++ j.link.token :: others.tokens := by
  cases j <;> rfl

theorem tokens_clauseTree (j : Junction) (chain : Tree (.linked j.link)) :
    (j.clauseTree chain).tokens = chain.tokens := by
  cases j <;> rfl

theorem eval_single (j : Junction) (s : Scope) (clause : Clause) :
    (j.clauseTree (.one j.link (j.memberTree clause))).eval s = clause.eval s := by
  cases j <;> simp [clauseTree, memberTree, Tree.eval]

theorem eval_linked (j : Junction) (s : Scope) (clause : Clause) (others : Tree (.linked j.link)) :
    (j.clauseTree (j.linkTree (j.memberTree clause) others)).eval s =
      (clause.eval s).bind fun a =>
        ((j.clauseTree others).eval s).bind (a.connect j.connective) := by
  cases j <;> simp [clauseTree, linkTree, memberTree, Tree.eval] <;> rfl

theorem spells_linked (j : Junction) {cs ds : List Char} {ts us : List Token} (hc : Spells cs ts)
    (hd : Spells ds us) : Spells (cs ++ (j.word.toList ++ ds)) (ts ++ j.link.token :: us) := by
  cases j with
  | all =>
    have hWord : Spells ['A', 'N', 'D'] [.and] := .word rfl (by decide)
    exact hc.append (hWord.append hd.blank (by decide)).blank (by decide)
  | any =>
    have hWord : Spells ['O', 'R'] [.or] := .word rfl (by decide)
    exact hc.append (hWord.append hd.blank (by decide)).blank (by decide)

theorem render_condition (j : Junction) (members : List Condition) (bound : Nat) :
    (j.condition members).render bound = j.word.intercalate (renderMembers bound members) := by
  cases j <;> simp [condition, word, render]

theorem values_condition (j : Junction) (members : List Condition) :
    (j.condition members).values = valuesOfAll members := by
  cases j <;> simp [condition, values]

theorem connect_ofLogic (j : Junction) (a b : Logic) :
    (Value.ofLogic a).connect j.connective (.ofLogic b) = some (.ofLogic (j.connective a b)) := by
  simp [Value.connect]

/-- Two linked by the connective are true when both or when either is, as the group says. -/
theorem connective_holds_iff (j : Junction) {a b : Logic} {row : Row} {c : Condition}
    {members : List Condition} (ha : a = some true ↔ c.holds row = true)
    (hb : b = some true ↔ (j.condition members).holds row = true) :
    j.connective a b = some true ↔ (j.condition (c :: members)).holds row = true := by
  cases j with
  | all => simp [connective, Logic.and_eq_true_iff, ha, hb, condition, holds, allHold]
  | any => simp [connective, Logic.or_eq_true_iff, ha, hb, condition, holds, anyHolds]

theorem holds_single (j : Junction) (row : Row) (c : Condition) :
    (j.condition [c]).holds row = c.holds row := by
  cases j <;> simp [condition, holds, allHold, anyHolds]

/-- A group is read as its members are, one after the other. -/
theorem exists_reading (j : Junction) {members : List Condition} (hNonempty : members ≠ [])
    (hMembers : ∀ c ∈ members, ∀ bound, ∃ clause, c.IsReading bound clause) (bound : Nat) :
    ∃ chain, (j.condition members).IsReading bound (j.clauseTree chain) := by
  -- the members behind the first are read with its values standing before their own
  induction members generalizing bound with
  | nil => exact absurd rfl hNonempty
  | cons c members ih =>
    obtain ⟨clause, hSpells, hEval⟩ := hMembers c List.mem_cons_self bound
    cases members with
    | nil =>
      refine ⟨.one j.link (j.memberTree clause), ?_, ?_⟩
      · rw [tokens_clauseTree, Tree.tokens, tokens_memberTree, render_condition]
        simpa [renderMembers] using hSpells.parens
      · intro row before after hBefore
        obtain ⟨b, hb, hIff⟩ := hEval row before after hBefore
        refine ⟨b, ?_, by rw [hIff, holds_single]⟩
        rw [eval_single, values_condition]
        simpa [valuesOfAll] using hb
    | cons d members =>
      obtain ⟨others, hOthers, hOthersEval⟩ := ih (List.cons_ne_nil _ _)
        (fun e he => hMembers e (List.mem_cons_of_mem _ he)) (bound + c.values.length)
      refine ⟨j.linkTree (j.memberTree clause) others, ?_, ?_⟩
      · have hLinked := j.spells_linked hSpells.parens hOthers
        rw [tokens_clauseTree, render_condition] at hLinked
        rw [tokens_clauseTree, tokens_linkTree, tokens_memberTree, render_condition, renderMembers,
          String.intercalate_cons_of_ne_nil (by simp [renderMembers])]
        simpa using hLinked
      · intro row before after hBefore
        have hBehind : (before ++ c.values.map Json.string).length = bound + c.values.length := by
          simp [hBefore]
        obtain ⟨a, ha, hFirst⟩ := hEval row before
          ((valuesOfAll (d :: members)).map Json.string ++ after) hBefore
        obtain ⟨b, hb, hRest⟩ := hOthersEval row (before ++ c.values.map Json.string) after hBehind
        refine ⟨j.connective a b, ?_, j.connective_holds_iff hFirst hRest⟩
        rw [values_condition] at hb
        rw [eval_linked, values_condition, valuesOfAll, List.map_append]
        simp only [List.append_assoc] at ha hb ⊢
        rw [ha, hb]
        exact j.connect_ofLogic a b

end Junction

/-- Every condition without empty groups has a reading. -/
theorem exists_reading {c : Condition} (h : c.NoEmptyGroup) (bound : Nat) :
    ∃ clause, c.IsReading bound clause := by
  induction h generalizing bound with
  | equals column value => exact ⟨_, isReading_equals column value bound⟩
  | isIn column values => exact exists_reading_isIn column values bound
  | all hNonempty _ ih =>
    obtain ⟨chain, hReading⟩ := Junction.all.exists_reading hNonempty ih bound
    exact ⟨_, hReading⟩
  | any hNonempty _ ih =>
    obtain ⟨chain, hReading⟩ := Junction.any.exists_reading hNonempty ih bound
    exact ⟨_, hReading⟩

/-! ## Conditions of joins -/

theorem noEmptyGroup_allOf {cs : List Condition} (h : ∀ c ∈ cs, c.NoEmptyGroup) :
    ∀ c ∈ allOf cs, c.NoEmptyGroup := by
  intro c hc
  match cs with
  | [] => cases hc
  | [d] =>
    cases hc
    exact h c List.mem_cons_self
  | d :: e :: cs =>
    cases hc
    exact .all (List.cons_ne_nil _ _) h

theorem noEmptyGroup_anyOf {cs : List Condition} (h : ∀ c ∈ cs, c.NoEmptyGroup) :
    ∀ c ∈ anyOf cs, c.NoEmptyGroup := by
  intro c hc
  match cs with
  | [] => cases hc
  | [d] =>
    cases hc
    exact h c List.mem_cons_self
  | d :: e :: cs =>
    cases hc
    exact .any (List.cons_ne_nil _ _) h

end Condition

theorem Filter.noEmptyGroup_condition? {f : Filter} {column : Column} {c : Condition}
    (h : f.condition? column = some c) : c.NoEmptyGroup := by
  unfold condition? at h
  split at h
  · cases h
    cases hAny : Condition.anyOf (f.values.map (Condition.equals column)) with
    | none => exact .isIn column []
    | some d =>
      refine Condition.noEmptyGroup_anyOf (fun e he => ?_) d hAny
      obtain ⟨value, -, rfl⟩ := List.mem_map.mp he
      exact .equals column value
  · cases h
    exact .isIn column f.values
  · cases h

theorem Restriction.noEmptyGroup_of {primary : Kind} {filters : List Filter} {r : Restriction}
    (h : Restriction.of primary filters = .ok r) :
    (∀ c ∈ r.primary, c.NoEmptyGroup) ∧ ∀ c ∈ r.related, c.NoEmptyGroup := by
  have hHalf : ∀ target, ∀ c ∈ Condition.allOf
      (filters.filterMap (Filter.conditionFor? primary target)), c.NoEmptyGroup := by
    intro target
    refine Condition.noEmptyGroup_allOf fun c hc => ?_
    obtain ⟨f, -, hCondition⟩ := List.mem_filterMap.mp hc
    obtain ⟨column, -, -, hColumn⟩ := Filter.conditionFor?_eq_some_iff.mp hCondition
    exact Filter.noEmptyGroup_condition? hColumn
  rw [of_eq_ok (supported_of_eq_ok h)] at h
  cases h
  exact ⟨hHalf primary, hHalf primary.other⟩

theorem JoinQuery.noEmptyGroup_of {primary : Kind} {own related : List Column} {r : Restriction}
    (hPrimary : ∀ c ∈ r.primary, c.NoEmptyGroup) (hRelated : ∀ c ∈ r.related, c.NoEmptyGroup) :
    ∀ c ∈ (JoinQuery.of primary own related r).condition, c.NoEmptyGroup := by
  refine Condition.noEmptyGroup_allOf fun c hc => ?_
  rcases List.mem_append.mp hc with hOwn | hOther
  · exact hPrimary c (Option.mem_toList.mp hOwn)
  · exact hRelated c (Option.mem_toList.mp hOther)

theorem Condition.IsReading.readsAs {c : Condition} {bound : Nat} {clause : Clause}
    (h : c.IsReading bound clause) : ReadsAs (c.render bound) clause := by
  have hEnd := h.spells [] (fun _ hc => by cases hc)
  simpa [ReadsAs, lex, Scan.lex, Scan.tokens?] using hEnd

theorem Condition.NoEmptyGroup.existsUnique_readsAs {c : Condition} (h : c.NoEmptyGroup)
    (bound : Nat) : ∃! clause, ReadsAs (c.render bound) clause := by
  obtain ⟨clause, hReading⟩ := exists_reading h bound
  exact ⟨clause, hReading.readsAs, fun _ hOther => Tree.readsAs_unique hOther hReading.readsAs⟩

/-- The clause of a condition without empty groups is read in exactly one way, whatever values stand
before its own, and what is read is true on a row exactly when the condition holds. The conditions
that joins are made with have no empty groups, so their clauses are read in exactly one way. -/
theorem clause_meaning :
    (∀ (c : Condition) (params : List Json), c.NoEmptyGroup →
      (∃! clause, ReadsAs (c.render params.length) clause) ∧
        ∀ clause, ReadsAs (c.render params.length) clause → ∀ row,
          clause.eval ⟨row, params ++ c.values.map Json.string⟩ = some (.truth true) ↔
            c.holds row = true) ∧
      ∀ (primary : Kind) (own related : List Column) (filters : List Filter) (r : Restriction),
        Restriction.of primary filters = .ok r →
          ∀ c ∈ (JoinQuery.of primary own related r).condition,
            c.NoEmptyGroup ∧ ∃! clause, ReadsAs (c.render 0) clause := by
  constructor
  · intro c params h
    refine ⟨h.existsUnique_readsAs params.length, fun clause hReads row => ?_⟩
    obtain ⟨read, hReading⟩ := Condition.exists_reading h params.length
    obtain rfl := Tree.readsAs_unique hReads hReading.readsAs
    obtain ⟨b, hEval, hIff⟩ := hReading.evaluates row params [] rfl
    rw [List.append_nil] at hEval
    rw [hEval, ← hIff, ← Value.ofLogic_eq_true_iff, Option.some_inj]
  · intro primary own related filters r hRestriction c hc
    obtain ⟨hPrimary, hRelated⟩ := Restriction.noEmptyGroup_of hRestriction
    have hNoEmpty := JoinQuery.noEmptyGroup_of hPrimary hRelated c hc
    exact ⟨hNoEmpty, hNoEmpty.existsUnique_readsAs 0⟩

/-- A group within a group, behind a value of another clause, on a row that satisfies it, and the
clause of two filters, of which one has two values and the other none. -/
theorem clause_meaning_nested :
    (∃ clause, ReadsAs ("((lower(\"campaign\".\"name\") = lower($2)) OR (1 = 0)) AND " ++
        "(\"ad_group\".\"campaign_id\"::text IN ($3, $4))") clause ∧
      clause.eval ⟨(Row.empty.set .campaignName (.string "Brand")).set .adGroupCampaignId (.int 7),
        [.null, .string "BRAND", .string "5", .string "7"]⟩ = some (.truth true)) ∧
      ∃! clause, ReadsAs ("((lower(\"campaign\".\"name\") = lower($1)) OR " ++
        "(lower(\"campaign\".\"name\") = lower($2))) AND (1 = 0)") clause := by
  have hGroup : Condition.NoEmptyGroup
      (.any [.equals .campaignName "BRAND", .isIn .campaignStatus []]) :=
    .any (List.cons_ne_nil _ _) (List.forall_mem_cons.mpr
      ⟨.equals _ _, List.forall_mem_cons.mpr ⟨.isIn _ _, List.forall_mem_nil _⟩⟩)
  have hNoEmpty : Condition.NoEmptyGroup (.all [
      .any [.equals .campaignName "BRAND", .isIn .campaignStatus []],
      .isIn .adGroupCampaignId ["5", "7"]]) :=
    .all (List.cons_ne_nil _ _) (List.forall_mem_cons.mpr
      ⟨hGroup, List.forall_mem_cons.mpr ⟨.isIn _ _, List.forall_mem_nil _⟩⟩)
  have hRestriction : Restriction.of .campaign
      [⟨"name", .equals, ["Brand", "Trial"]⟩, ⟨"adGroup.status", .isIn, []⟩] =
      .ok ⟨some (.any [.equals .campaignName "Brand", .equals .campaignName "Trial"]),
        some (.isIn .adGroupStatus [])⟩ := by
    rfl
  constructor
  · obtain ⟨⟨clause, hReads, -⟩, hMeaning⟩ := clause_meaning.1 _ [.null] hNoEmpty
    refine ⟨clause, hReads, (hMeaning clause hReads _).mpr ?_⟩
    decide +kernel
  · exact (clause_meaning.2 .campaign [] [] _ _ hRestriction _ rfl).2

end CampaignFetch

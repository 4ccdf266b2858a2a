import CampaignFetch.Proofs.Sql.Command
import CampaignFetch.Text.Blank

/-!
# What statements do to the tables

Two tables hold rows by identity. A statement that is executed does what the command in its text
says, with its values in their places, or fails and does nothing. A text that says no command may
do anything.

* `Statement.Executes` is one statement on the tables.
* `Tables.Sound` is what has to hold of the tables, `Tables.KeptIn` what has to stay of them.
* `Tables.Creates` and `Tables.Changes` are the two ways of writing a row; `Sound.creates` and
  `Sound.changes` say that both leave the tables sound and keep what was there.
* `Executes.creates`, `Executes.changes` and `Executes.select`: what a statement with a known
  command does.
-/

namespace CampaignFetch

/-! ## Tables -/

/-- The row of an entity. -/
abbrev Record := Column → Cell

/-- The row with another value in a column. -/
def Record.set (r : Record) (c : Column) (value : Cell) : Record := fun d =>
  if d = c then value else r d

/-- The row with other values in several columns, one after the other. -/
def Record.setAll (r : Record) (values : List (Column × Cell)) : Record :=
  values.foldl (fun r x => r.set x.1 x.2) r

theorem Record.setAll_of_not_mem (r : Record) {values : List (Column × Cell)} {c : Column}
    (h : c ∉ values.map (·.1)) : r.setAll values c = r c := by
  induction values generalizing r with
  | nil => rfl
  | cons x values ih =>
    rw [List.map_cons] at h
    refine (ih (r.set x.1 x.2) (List.not_mem_of_not_mem_cons h)).trans ?_
    exact if_neg (List.ne_of_not_mem_cons h)

/-- A new row before it is given values: its identity, the times and the status are there. -/
def Record.fresh (kind : Kind) (id : Int) (now : String) : Record := fun c =>
  if c = kind.identity then .int id
  else if c = kind.statusColumn then .text Status.active.text
  else if c = kind.createdColumn ∨ c = kind.updatedColumn then .text now
  else .null

/-- The rows of the two tables by identity. -/
abbrev Tables := Kind → Int → Option Record

namespace Tables

/-- Tables without rows. -/
def empty : Tables := fun _ _ => none

/-- The tables with a row in the place of an identity. -/
def set (t : Tables) (kind : Kind) (id : Int) (r : Record) : Tables := fun k n =>
  if k = kind ∧ n = id then some r else t k n

end Tables

/-! ## Statements -/

/-- The cell that a value is stored as. -/
def Param.cell? : Param → Option Cell
  | .null => some .null
  | .int value => some (.int value)
  | .text value => some (.text value)
  | .ints _ => none

@[simp] theorem Param.cell?_text (s : String) : (Param.text s).cell? = some (.text s) := rfl

@[simp] theorem Param.cell?_int (n : Int) : (Param.int n).cell? = some (.int n) := rfl

/-- A text that may be null. -/
def Cell.ofText? : Option String → Cell
  | some s => .text s
  | none => .null

@[simp] theorem Param.cell?_ofText? (s : Option String) :
    (Param.ofText? s).cell? = some (.ofText? s) := by
  cases s <;> rfl

/-- The cell of an operand, for the values of a statement and the time. -/
def Sql.Operand.cell? (params : List Param) (now : String) : Sql.Operand → Option Cell
  | .param number => if number = 0 then none else params[number - 1]?.bind Param.cell?
  | .now => some (.text now)

namespace Sql

/-- The values that columns are given by their operands. -/
def values? (params : List Param) (now : String) (assignments : List (Column × Operand)) :
    Option (List (Column × Cell)) :=
  assignments.mapM fun x => (x.2.cell? params now).map fun value => (x.1, value)

open Operand in
/-- What a command does to the tables and which rows it gives. -/
inductive Command.Runs (params : List Param) : Command → Tables → List Cells → Tables → Prop
  | insert {kind columns operands returned t id now values}
      (hFresh : t kind id = none)
      (hLength : columns.length = operands.length)
      (hValues : values? params now (columns.zip operands) = some values) :
      Runs params (.insert kind columns operands returned) t
        [returned.map ((Record.fresh kind id now).setAll values)]
        (t.set kind id ((Record.fresh kind id now).setAll values))
  | update {kind assignments key returned t id now record values}
      (hKey : cell? params now key = some (.int id))
      (hRow : t kind id = some record)
      (hValues : values? params now assignments = some values) :
      Runs params (.update kind assignments key returned) t
        [returned.map (record.setAll values)] (t.set kind id (record.setAll values))
  | updateNone {kind assignments key returned t now}
      (hNone : ∀ id, cell? params now key = some (.int id) → t kind id = none) :
      Runs params (.update kind assignments key returned) t [] t
  | select {kind key returned t id now record}
      (hKey : cell? params now key = some (.int id))
      (hRow : t kind id = some record) :
      Runs params (.select kind key returned) t [returned.map record] t
  | selectNone {kind key returned t now}
      (hNone : ∀ id, cell? params now key = some (.int id) → t kind id = none) :
      Runs params (.select kind key returned) t [] t
  | query {t rows} : Runs params .query t rows t

end Sql

/-- A statement is executed on the tables. -/
inductive Statement.Executes (s : Statement) : Tables → Reply → Tables → Prop
  | failed {t fault} : Executes s t (.error fault) t
  | ran {t command rows t'} (hText : Sql.Command.ofText? s.sql = some command)
      (hRuns : command.Runs s.params t rows t') : Executes s t (.ok rows) t'
  | unread {t reply t'} (hText : Sql.Command.ofText? s.sql = none) : Executes s t reply t'

/-! ## What has to hold -/

/-- The columns of a kind that stay as they were when a row was made. -/
def Kind.fixedColumns : Kind → List Column
  | .campaign => [.campaignId, .campaignCreateDate]
  | .adGroup => [.adGroupId, .adGroupCampaignId, .adGroupCreateDate]

/-- The row may stand in the place of the identity: it has this identity, a name that is not blank
and a status, and the campaign that an ad group refers to is there. -/
structure Record.Valid (t : Tables) (kind : Kind) (id : Int) (r : Record) : Prop where
  identity : r kind.identity = .int id
  name : ∃ name, r kind.nameColumn = .text name ∧ Text.isBlankText name = false
  status : ∃ status : Status, r kind.statusColumn = .text status.text
  reference : kind = .adGroup →
    ∃ campaign, r .adGroupCampaignId = .int campaign ∧ (t .campaign campaign).isSome = true

namespace Tables

/-- Every row may stand in its place. -/
def Sound (t : Tables) : Prop := ∀ kind id r, t kind id = some r → r.Valid t kind id

/-- Every row is still there in the other tables, with its fixed columns. -/
def KeptIn (t t' : Tables) : Prop :=
  ∀ kind id r, t kind id = some r →
    ∃ r', t' kind id = some r' ∧ ∀ c ∈ kind.fixedColumns, r' c = r c

variable {t t' t'' : Tables} {kind : Kind} {id : Int} {r : Record}

theorem KeptIn.refl (t : Tables) : t.KeptIn t := fun _ _ r hr => ⟨r, hr, fun _ _ => rfl⟩

theorem KeptIn.trans (h : t.KeptIn t') (h' : t'.KeptIn t'') : t.KeptIn t'' := by
  intro kind id r hr
  obtain ⟨r', hr', hFixed⟩ := h kind id r hr
  obtain ⟨r'', hr'', hFixed'⟩ := h' kind id r' hr'
  exact ⟨r'', hr'', fun c hc => (hFixed' c hc).trans (hFixed c hc)⟩

theorem KeptIn.isSome (h : t.KeptIn t') (hRow : (t kind id).isSome = true) :
    (t' kind id).isSome = true := by
  obtain ⟨r, hr⟩ := Option.isSome_iff_exists.mp hRow
  obtain ⟨r', hr', -⟩ := h kind id r hr
  exact Option.isSome_iff_exists.mpr ⟨r', hr'⟩

theorem sound_empty : empty.Sound := fun _ _ _ hr => by cases hr

theorem set_self (t : Tables) (kind : Kind) (id : Int) (r : Record) :
    t.set kind id r kind id = some r := if_pos ⟨rfl, rfl⟩

theorem set_of_ne {k : Kind} {n : Int} (h : ¬ (k = kind ∧ n = id)) :
    t.set kind id r k n = t k n := if_neg h

theorem keptIn_set
    (h : ∀ old, t kind id = some old → ∀ c ∈ kind.fixedColumns, r c = old c) :
    t.KeptIn (t.set kind id r) := by
  intro k n old hOld
  by_cases hHere : k = kind ∧ n = id
  · obtain ⟨rfl, rfl⟩ := hHere
    exact ⟨r, set_self t k n r, h old hOld⟩
  · exact ⟨old, (set_of_ne hHere).trans hOld, fun _ _ => rfl⟩

end Tables

theorem Record.Valid.mono {t t' : Tables} {kind : Kind} {id : Int} {r : Record}
    (h : r.Valid t kind id) (hKept : t.KeptIn t') : r.Valid t' kind id := by
  refine ⟨h.identity, h.name, h.status, fun hKind => ?_⟩
  obtain ⟨campaign, hRefers, hRow⟩ := h.reference hKind
  exact ⟨campaign, hRefers, hKept.isSome hRow⟩

/-- A row may be changed as long as its fixed columns stay. -/
theorem Record.Valid.change {t : Tables} {kind : Kind} {id : Int} {r r' : Record}
    (h : r.Valid t kind id) (hFixed : ∀ c ∈ kind.fixedColumns, r' c = r c)
    (hName : ∃ name, r' kind.nameColumn = .text name ∧ Text.isBlankText name = false)
    (hStatus : ∃ status : Status, r' kind.statusColumn = .text status.text) :
    r'.Valid t kind id := by
  refine ⟨?_, hName, hStatus, fun hKind => ?_⟩
  · rw [hFixed _ (by cases kind <;> decide), h.identity]
  · obtain ⟨campaign, hRefers, hRow⟩ := h.reference hKind
    subst hKind
    exact ⟨campaign, (hFixed _ (by decide)).trans hRefers, hRow⟩

namespace Tables

variable {t t' : Tables} {kind : Kind} {id : Int} {r : Record}

theorem Sound.set (h : t.Sound) (hValid : r.Valid t kind id)
    (hFixed : ∀ old, t kind id = some old → ∀ c ∈ kind.fixedColumns, r c = old c) :
    (t.set kind id r).Sound := by
  have hKept := keptIn_set hFixed
  intro k n row hRow
  by_cases hHere : k = kind ∧ n = id
  · obtain ⟨rfl, rfl⟩ := hHere
    rw [set_self] at hRow
    cases hRow
    exact hValid.mono hKept
  · rw [set_of_ne hHere] at hRow
    exact (h k n row hRow).mono hKept

/-! ## Writes -/

/-- One row is added, with values in some columns. -/
def Creates (t t' : Tables) (kind : Kind) (values : List (Column × Cell)) : Prop :=
  ∃ id now, t kind id = none ∧ t' = t.set kind id ((Record.fresh kind id now).setAll values)

/-- One row gets other values in some columns, and the time of the change. -/
def Changes (t t' : Tables) (kind : Kind) (id : Int) (values : List (Column × Cell)) : Prop :=
  ∃ r now, t kind id = some r ∧
    t' = t.set kind id (r.setAll (values ++ [(kind.updatedColumn, .text now)]))

variable {values : List (Column × Cell)}

theorem Sound.creates (h : t.Sound) (hCreates : t.Creates t' kind values)
    (hValid : ∀ id now, ((Record.fresh kind id now).setAll values).Valid t kind id) :
    t'.Sound ∧ t.KeptIn t' := by
  obtain ⟨id, now, hNone, rfl⟩ := hCreates
  have hFixed : ∀ old, t kind id = some old → ∀ c ∈ kind.fixedColumns,
      (Record.fresh kind id now).setAll values c = old c := by
    intro old hOld
    rw [hNone] at hOld
    cases hOld
  exact ⟨h.set (hValid id now) hFixed, keptIn_set hFixed⟩

/-- A change that spares the fixed columns spares them on every row. -/
theorem setAll_fixed (hColumns : ∀ c ∈ kind.fixedColumns, c ∉ values.map (·.1)) (r : Record)
    (now : String) : ∀ c ∈ kind.fixedColumns,
      r.setAll (values ++ [(kind.updatedColumn, .text now)]) c = r c := by
  intro c hc
  refine r.setAll_of_not_mem ?_
  rw [List.map_append, List.mem_append, not_or]
  refine ⟨hColumns c hc, ?_⟩
  revert hc
  cases kind <;> cases c <;> simp [Kind.fixedColumns, Kind.updatedColumn]

theorem Sound.changes (h : t.Sound) (hChanges : t.Changes t' kind id values)
    (hColumns : ∀ c ∈ kind.fixedColumns, c ∉ values.map (·.1))
    (hGiven : ∀ (r r' : Record) now, r.Valid t kind id →
      r' = r.setAll (values ++ [(kind.updatedColumn, .text now)]) →
      (∃ name, r' kind.nameColumn = .text name ∧ Text.isBlankText name = false) ∧
        ∃ status : Status, r' kind.statusColumn = .text status.text) :
    t'.Sound ∧ t.KeptIn t' := by
  obtain ⟨r, now, hRow, rfl⟩ := hChanges
  have hFixed := setAll_fixed hColumns r now
  have hOld : ∀ old, t kind id = some old → ∀ c ∈ kind.fixedColumns,
      r.setAll (values ++ [(kind.updatedColumn, .text now)]) c = old c := by
    intro old hOld
    rw [hRow] at hOld
    cases hOld
    exact hFixed
  have hValid := h kind id r hRow
  obtain ⟨hName, hStatus⟩ := hGiven r _ now hValid rfl
  exact ⟨h.set (hValid.change hFixed hName hStatus) hOld, keptIn_set hOld⟩

end Tables

/-! ## Executed commands -/

namespace Statement

variable {s : Statement} {t t' : Tables} {reply : Reply} {kind : Kind} {id : Int}

open Sql

theorem Executes.runs {command : Command} (h : s.Executes t reply t')
    (hText : Command.ofText? s.sql = some command) :
    (t' = t ∧ ∃ fault, reply = .error fault) ∨
      ∃ rows, reply = .ok rows ∧ command.Runs s.params t rows t' := by
  cases h with
  | failed => exact .inl ⟨rfl, _, rfl⟩
  | ran hRead hRuns =>
    rw [hText] at hRead
    cases hRead
    exact .inr ⟨_, rfl, hRuns⟩
  | unread hRead =>
    rw [hText] at hRead
    cases hRead

theorem Executes.query (h : s.Executes t reply t')
    (hText : Command.ofText? s.sql = some .query) : t' = t := by
  rcases h.runs hText with ⟨hSame, -⟩ | ⟨rows, -, hRuns⟩
  · exact hSame
  · cases hRuns
    rfl

/-- Looking for a row changes nothing. Where it gives a row, the row is there. -/
theorem Executes.select {key : Operand} {returned : List Column} (h : s.Executes t reply t')
    (id : Int)
    (hText : Command.ofText? s.sql = some (.select kind key returned))
    (hKey : ∀ now, key.cell? s.params now = some (.int id)) :
    t' = t ∧ ∀ cells rows, reply = .ok (cells :: rows) → (t kind id).isSome = true := by
  rcases h.runs hText with ⟨hSame, fault, hFault⟩ | ⟨rows, hReply, hRuns⟩
  · refine ⟨hSame, fun cells rows hRows => ?_⟩
    rw [hFault] at hRows
    cases hRows
  · cases hRuns with
    | select hRead hRow =>
      rw [hKey] at hRead
      cases hRead
      exact ⟨rfl, fun _ _ _ => Option.isSome_iff_exists.mpr ⟨_, hRow⟩⟩
    | selectNone =>
      refine ⟨rfl, fun cells rows hRows => ?_⟩
      rw [hReply] at hRows
      cases hRows

theorem Executes.creates {columns : List Column} {operands : List Operand}
    {returned : List Column} (h : s.Executes t reply t') (values : List (Column × Cell))
    (hText : Command.ofText? s.sql = some (.insert kind columns operands returned))
    (hValues : ∀ now, values? s.params now (columns.zip operands) = some values) :
    t' = t ∨ t.Creates t' kind values := by
  rcases h.runs hText with ⟨hSame, -⟩ | ⟨rows, -, hRuns⟩
  · exact .inl hSame
  · cases hRuns with
    | insert hFresh _ hRead =>
      rw [hValues] at hRead
      cases hRead
      exact .inr ⟨_, _, hFresh, rfl⟩

theorem Executes.changes {assignments : List (Column × Operand)} {key : Operand}
    {returned : List Column} (h : s.Executes t reply t') (id : Int)
    (values : List (Column × Cell))
    (hText : Command.ofText? s.sql = some (.update kind assignments key returned))
    (hKey : ∀ now, key.cell? s.params now = some (.int id))
    (hValues : ∀ now, values? s.params now assignments =
      some (values ++ [(kind.updatedColumn, .text now)])) :
    t' = t ∨ t.Changes t' kind id values := by
  rcases h.runs hText with ⟨hSame, -⟩ | ⟨rows, -, hRuns⟩
  · exact .inl hSame
  · cases hRuns with
    | update hRead hRow hGiven =>
      rw [hKey] at hRead
      cases hRead
      rw [hValues] at hGiven
      cases hGiven
      exact .inr ⟨_, _, hRow, rfl⟩
    | updateNone => exact .inl rfl

end Statement

end CampaignFetch

import CampaignFetch.Database.Script
import CampaignFetch.Proofs.FetchAnswers
import CampaignFetch.Proofs.TimestampText
import Mathlib.Data.List.Forall2

/-!
# Joins that a database answers

A database gives the rows of a join as cells in the order of the projection, the store in memory as
values of columns. `Cell.Holds` says which cell stands for which value, `MemoryStore.LaidOut` that a
table of cells stands for the rows of the store.

* `Cell.value_eq_ok_iff`, `Cell.fault_of_value_eq_error`: a cell is decoded as the value that it
  stands for, and otherwise not at all.
* `JoinQuery.decode_of_forall₂`, `JoinQuery.decode_of_failsWith`: a table is decoded as a whole or
  not at all.
* `MemoryStore.exists_laidOut`: the rows of every join can be laid out.
* `database_answers`: a database that gives the rows of the store is as good as the store, in either
  direction; when the statement fails, or a row of the reply cannot be decoded, there is no result.
-/

namespace CampaignFetch

open Calendar

/-! ## Cells -/

namespace Cell

/-- The cell stands for the value of a column of a type. A timestamp is told to the microsecond. -/
def Holds : ColumnType → Json → Cell → Prop
  | _, .null, .null => True
  | .integer, .number (.int m), .int n => m = n
  | .text, .string s, .text t => s = t
  | .timestamp, .string s, .text t =>
    (Layout.document.read t).toOption.map Timestamp.microText = some s
  | _, _, _ => False

instance (type : ColumnType) (value : Json) (c : Cell) : Decidable (c.Holds type value) := by
  unfold Holds
  split <;> infer_instance

theorem value_timestamp {s : String} :
    (text s).value .timestamp =
      match Layout.document.read s with
      | .ok t => .ok (.string t.microText)
      | .error _ => .error .columnDecode := by
  rw [value, timestamp?]
  cases Layout.document.read s with
  | ok t => simp [Except.map, Timestamp.microText_truncate]
  | error fault => rfl

theorem holds_of_value_eq_ok {type : ColumnType} {value : Json} {c : Cell}
    (h : c.value type = .ok value) : c.Holds type value := by
  cases type with
  | integer =>
    cases c with
    | text s => cases h
    | null | int n =>
      cases h
      constructor
  | text =>
    cases c with
    | int n => cases h
    | null | text s =>
      cases h
      constructor
  | timestamp =>
    cases c with
    | int n => cases h
    | null =>
      cases h
      constructor
    | text s =>
      rw [value_timestamp] at h
      split at h
      · rename_i t hRead
        cases h
        simp [Holds, hRead, Except.toOption]
      · cases h

theorem Holds.value_eq_ok {type : ColumnType} {value : Json} {c : Cell} (h : c.Holds type value) :
    c.value type = .ok value := by
  unfold Holds at h
  split at h
  · cases type <;> rfl
  · exact h ▸ rfl
  · exact h ▸ rfl
  · rename_i s t
    obtain ⟨time, hRead, rfl⟩ := Option.map_eq_some_iff.mp h
    rw [value_timestamp]
    split
    · rename_i time' hTime
      rw [hTime] at hRead
      rw [Option.some.inj hRead]
    · rename_i fault hTime
      rw [hTime] at hRead
      cases hRead
  · exact h.elim

/-- A cell is decoded as the value that it stands for. -/
theorem value_eq_ok_iff {type : ColumnType} {value : Json} {c : Cell} :
    c.value type = .ok value ↔ c.Holds type value :=
  ⟨holds_of_value_eq_ok, Holds.value_eq_ok⟩

theorem fault_of_value_eq_error {type : ColumnType} {c : Cell} {fault : DatabaseFault}
    (h : c.value type = .error fault) : fault = .columnDecode := by
  cases type with
  | integer => cases c <;> cases h; rfl
  | text => cases c <;> cases h; rfl
  | timestamp =>
    cases c with
    | null => cases h
    | int n =>
      cases h
      rfl
    | text s =>
      rw [value_timestamp] at h
      split at h <;> cases h
      rfl

end Cell

/-! ## Rows -/

namespace Row

/-- The cells stand for the values of the row in the projected columns, one by one. -/
def LaidOut (projection : List Column) (row : Row) (cells : Cells) : Prop :=
  List.Forall₂ (fun c cell => cell.Holds c.type (row.get c)) projection cells

instance (projection : List Column) (row : Row) (cells : Cells) :
    Decidable (row.LaidOut projection cells) :=
  inferInstanceAs (Decidable (List.Forall₂ _ projection cells))

/-- Some column has no cell, or a cell that stands for no value of the column. -/
def Unreadable (projection : List Column) (cells : Cells) : Prop :=
  cells.length < projection.length ∨
    ∃ x ∈ projection.zip cells, ∀ value, ¬ x.2.Holds x.1.type value

variable {projection : List Column} {cells : Cells}

theorem ofCells_of_laidOut {row : Row} (h : row.LaidOut projection cells) (out : Row) :
    ofCells projection cells out =
      .ok (projection.foldl (fun out c => out.set c (row.get c)) out) := by
  induction h generalizing out with
  | nil => rfl
  | cons hCell hRest ih =>
    rw [ofCells, Cell.value_eq_ok_iff.mpr hCell, ok_bind, ih, List.foldl_cons]

theorem not_unreadable_nil : ¬ Unreadable [] cells := by
  simp [Unreadable]

theorem unreadable_missing {c : Column} : Unreadable (c :: projection) [] :=
  .inl (Nat.succ_pos _)

theorem unreadable_cons {c : Column} {cell : Cell} :
    Unreadable (c :: projection) (cell :: cells) ↔
      (∀ value, ¬ cell.Holds c.type value) ∨ Unreadable projection cells := by
  simp only [Unreadable, List.length_cons, Nat.add_lt_add_iff_right, List.zip_cons_cons,
    List.mem_cons, exists_eq_or_imp]
  exact or_left_comm

/-- A row fails to be decoded when it is too short or one of its cells cannot be read, whatever the
others are, and in no other case. -/
theorem ofCells_eq_error_iff {out : Row} {fault : DatabaseFault} :
    ofCells projection cells out = .error fault ↔
      Unreadable projection cells ∧ fault = .columnDecode := by
  induction projection, cells, out using ofCells.induct with
  | case1 cells out => simp [ofCells, not_unreadable_nil]
  | case2 c projection out => simp [ofCells, unreadable_missing, eq_comm]
  | case3 c projection cell cells out ih =>
    rw [ofCells, unreadable_cons]
    cases hValue : cell.value c.type with
    | error e =>
      -- the first cell is at fault, and the cells behind it do not matter
      have hNone : ∀ value, ¬ cell.Holds c.type value := fun value hHolds => by
        rw [Cell.value_eq_ok_iff.mpr hHolds] at hValue
        cases hValue
      rw [Cell.fault_of_value_eq_error hValue]
      exact ⟨fun h => ⟨.inl hNone, (Except.error.inj h).symm⟩, fun h => congrArg _ h.2.symm⟩
    | ok value =>
      have hSome : ¬ ∀ value, ¬ cell.Holds c.type value := fun h =>
        h value (Cell.value_eq_ok_iff.mp hValue)
      rw [ok_bind, ih, or_iff_right hSome]

end Row

/-! ## Tables -/

section

variable {α β ε : Type} {f : α → Except ε β}

theorem exists_forall₂ {R : α → β → Prop} {l : List α} (h : ∀ a ∈ l, ∃ b, R a b) :
    ∃ l', List.Forall₂ R l l' := by
  induction l with
  | nil => exact ⟨[], .nil⟩
  | cons a l ih =>
    obtain ⟨b, hHead⟩ := h a List.mem_cons_self
    obtain ⟨l', hRest⟩ := ih fun a' hMem => h a' (List.mem_cons_of_mem _ hMem)
    exact ⟨b :: l', .cons hHead hRest⟩

theorem mapM_eq_ok_iff {l : List α} {l' : List β} :
    l.mapM f = .ok l' ↔ List.Forall₂ (fun a b => f a = .ok b) l l' := by
  induction l generalizing l' with
  | nil => cases l' <;> simp [pure, Except.pure]
  | cons a l ih =>
    rw [List.mapM_cons, List.forall₂_cons_left_iff]
    cases hHead : f a with
    | error e => simp [bind, Except.bind]
    | ok b =>
      cases hRest : l.mapM f with
      | error e => simp [bind, Except.bind, ← ih, hRest]
      | ok bs => simp [bind, Except.bind, pure, Except.pure, ← ih, hRest, eq_comm]

/-- One element that fails is enough. -/
theorem mapM_of_error {l : List α} {fault : ε} (hFault : ∀ a e, f a = .error e → e = fault)
    {a : α} (hMem : a ∈ l) (h : f a = .error fault) : l.mapM f = .error fault := by
  induction l with
  | nil => cases hMem
  | cons a' l ih =>
    rw [List.mapM_cons]
    cases hHead : f a' with
    | error e =>
      rw [hFault a' e hHead]
      rfl
    | ok b =>
      rcases List.mem_cons.mp hMem with rfl | hRest
      · rw [h] at hHead
        cases hHead
      · rw [ok_bind, ih hRest]
        rfl

end

namespace JoinQuery

variable {q : JoinQuery}

/-- The replies from which a query gets no rows, with the reason. -/
inductive FailsWith (q : JoinQuery) : Reply → DatabaseFault → Prop where
  /-- The statement failed. -/
  | statement (fault : DatabaseFault) : FailsWith q (.error fault) fault
  /-- There is a row that cannot be decoded. -/
  | row {table : List Cells} {cells : Cells} (hMem : cells ∈ table)
      (hCells : Row.Unreadable q.projection cells) : FailsWith q (.ok table) .columnDecode

theorem decode_of_failsWith {reply : Reply} {fault : DatabaseFault}
    (h : q.FailsWith reply fault) : q.decode reply = .error fault := by
  cases h with
  | statement fault => rfl
  | row hMem hCells =>
    exact mapM_of_error (fun cells e hError => (Row.ofCells_eq_error_iff.mp hError).2) hMem
      (Row.ofCells_eq_error_iff.mpr ⟨hCells, rfl⟩)

theorem decode_of_forall₂ {rows : List Row} {table : List Cells}
    (h : List.Forall₂ (fun row cells => row.LaidOut q.projection cells) rows table) :
    q.decode (.ok table) = .ok (rows.map fun row => row.project q.projection) := by
  refine mapM_eq_ok_iff.mpr (List.forall₂_map_right_iff.mpr (h.flip.imp fun cells row hRow => ?_))
  exact Row.ofCells_of_laidOut hRow Row.empty

end JoinQuery

/-! ## The store in memory -/

namespace Row

/-- Every value of the row can be held by a cell. -/
def Typed (row : Row) : Prop := ∀ c : Column, ∃ cell : Cell, cell.Holds c.type (row.get c)

theorem typed_empty : Typed empty := fun c => ⟨.null, by cases c <;> trivial⟩

theorem Typed.set {row : Row} (h : row.Typed) {c : Column} {value : Json}
    (hValue : ∃ cell : Cell, cell.Holds c.type value) : (row.set c value).Typed := by
  intro d
  rw [get_set]
  split
  · rename_i hEq
    exact hEq ▸ hValue
  · exact h d

theorem Typed.project {row : Row} (h : row.Typed) (projection : List Column) :
    (row.project projection).Typed := by
  intro c
  rw [get_project]
  split
  · exact h c
  · exact typed_empty c

theorem Typed.exists_laidOut {row : Row} (h : row.Typed) (projection : List Column) :
    ∃ cells, row.LaidOut projection cells :=
  exists_forall₂ fun c _ => h c

theorem exists_holds_integer (x : Option Int) :
    ∃ cell : Cell, cell.Holds .integer (.ofOption .int x) := by
  cases x with
  | none => exact ⟨.null, trivial⟩
  | some n => exact ⟨.int n, rfl⟩

theorem exists_holds_text {α : Type} (write : α → String) (x : Option α) :
    ∃ cell : Cell, cell.Holds .text (.ofOption (fun a => .string (write a)) x) := by
  cases x with
  | none => exact ⟨.null, trivial⟩
  | some a => exact ⟨.text (write a), rfl⟩

theorem exists_holds_timestamp (x : Option Timestamp) :
    ∃ cell : Cell, cell.Holds .timestamp (.ofOption (fun t => .string t.microText) x) := by
  cases x with
  | none => exact ⟨.null, trivial⟩
  | some t =>
    refine ⟨.text t.microText, ?_⟩
    simp [Cell.Holds, Json.ofOption, read_microText_document, Except.toOption,
      Timestamp.microText_truncate]

theorem Typed.withCampaign {row : Row} (h : row.Typed) (c : Campaign) :
    (row.withCampaign c).Typed := by
  refine .set (.set (.set (.set (.set (.set h ?_) ?_) ?_) ?_) ?_) ?_
  · exact exists_holds_integer _
  · exact exists_holds_text id _
  · exact exists_holds_text id _
  · exact exists_holds_text _ _
  · exact exists_holds_timestamp _
  · exact exists_holds_timestamp _

theorem Typed.withAdGroup {row : Row} (h : row.Typed) (a : AdGroup) :
    (row.withAdGroup a).Typed := by
  refine .set (.set (.set (.set (.set (.set h ?_) ?_) ?_) ?_) ?_) ?_
  · exact exists_holds_integer _
  · exact exists_holds_integer _
  · exact exists_holds_text id _
  · exact exists_holds_text _ _
  · exact exists_holds_timestamp _
  · exact exists_holds_timestamp _

end Row

namespace MemoryStore

variable {m : MemoryStore} {q : JoinQuery}

theorem typed_of_mem_joinedRows {row : Row} (h : row ∈ m.joinedRows q) : row.Typed := by
  have hRows := List.mem_mergeSort.mp h
  cases hPrimary : q.primary with
  | campaign =>
    rw [hPrimary] at hRows
    obtain ⟨c, -, hRow⟩ := List.mem_flatMap.mp hRows
    unfold campaignRows at hRow
    dsimp only at hRow
    split at hRow
    · rw [List.mem_singleton.mp hRow]
      exact Row.typed_empty.withCampaign c
    · obtain ⟨a, -, rfl⟩ := List.mem_map.mp hRow
      exact (Row.typed_empty.withAdGroup a).withCampaign c
  | adGroup =>
    rw [hPrimary] at hRows
    obtain ⟨a, -, hRow⟩ := List.mem_flatMap.mp hRows
    unfold adGroupRows at hRow
    split at hRow
    · rw [List.mem_singleton.mp hRow]
      exact (Row.typed_empty.withCampaign _).withAdGroup a
    · split at hRow
      · rw [List.mem_singleton.mp hRow]
        exact Row.typed_empty.withAdGroup a
      · cases hRow

theorem typed_of_mem_fetchRows {row : Row} (h : row ∈ m.fetchRows q) : row.Typed := by
  obtain ⟨row, hMem, rfl⟩ := List.mem_map.mp h
  exact (typed_of_mem_joinedRows (List.mem_filter.mp hMem).1).project _

/-- The table stands for the rows of the store, row by row and column by column. -/
def LaidOut (m : MemoryStore) (q : JoinQuery) (table : List Cells) : Prop :=
  List.Forall₂ (fun row cells => row.LaidOut q.projection cells) (m.fetchRows q) table

instance (m : MemoryStore) (q : JoinQuery) (table : List Cells) : Decidable (m.LaidOut q table) :=
  inferInstanceAs (Decidable (List.Forall₂ _ _ table))

/-- The rows of every join can be laid out. -/
theorem exists_laidOut (m : MemoryStore) (q : JoinQuery) : ∃ table, m.LaidOut q table :=
  exists_forall₂ fun _ hMem => (typed_of_mem_fetchRows hMem).exists_laidOut q.projection

theorem LaidOut.decode {table : List Cells} (h : m.LaidOut q table) :
    q.decode (.ok table) = .ok (m.fetchRows q) := by
  have hProjected : ∀ row ∈ m.fetchRows q, row.project q.projection = row := by
    intro row hMem
    obtain ⟨row, -, rfl⟩ := List.mem_map.mp hMem
    exact row.project_project _
  rw [JoinQuery.decode_of_forall₂ h, List.map_congr_left hProjected, List.map_id']

end MemoryStore

/-! ## Answers -/

/-- A database that answers the statement of a join with the rows of a store gives those rows, and
what a fetch makes of them is what it makes of the store's own; one statement is sent for it. When
the statement fails, or one row of its reply cannot be decoded, the join fails and the fetch with
it, whatever the other rows are. -/
theorem database_answers (m : MemoryStore) (q : JoinQuery) (s : FetchSettings) (k : Kind)
    (r : Request) :
    (∀ table rest sent, m.LaidOut q table →
      (Program.fetch q).run.run .scripted ⟨.replies (.ok table :: rest), sent⟩ =
        (.ok (m.fetchRows q), ⟨.replies rest, q.statement :: sent⟩)) ∧
      (∀ table rest sent other, r.Accepted → m.LaidOut (s.joinQuery k r) table →
        (fetchFrom s k r).run.run .scripted ⟨.replies (.ok table :: rest), sent⟩ =
          (((fetchFrom s k r).run.run (.ofStore fun q => .ok (m.fetchRows q)) other).1,
            ⟨.replies rest, (s.joinQuery k r).statement :: sent⟩)) ∧
      (∀ db fault, q.FailsWith (db.execute q.statement).1 fault →
        (Program.fetch q).run.run .scripted db = (.error fault, (db.execute q.statement).2)) ∧
      ∀ db fault, r.Accepted →
        (s.joinQuery k r).FailsWith (db.execute (s.joinQuery k r).statement).1 fault →
          (fetchFrom s k r).run.run .scripted db =
            (.error (.execution fault), (db.execute (s.joinQuery k r).statement).2) := by
  have hJoin : ∀ (q : JoinQuery) (db : ScriptedDatabase),
      Backend.scripted.join q db =
        (q.decode (db.execute q.statement).1, (db.execute q.statement).2) := fun _ _ => rfl
  have hFetch : ∀ db, (Program.fetch q).run.run .scripted db = Backend.scripted.join q db :=
    fun _ => rfl
  refine ⟨?_, ?_, ?_, ?_⟩
  · intro table rest sent hTable
    rw [hFetch, hJoin]
    exact Prod.ext hTable.decode rfl
  · intro table rest sent other hAccepted hTable
    have hRows : (s.joinQuery k r).decode (.ok table) = .ok (m.fetchRows (s.joinQuery k r)) :=
      hTable.decode
    rw [FetchSettings.fetchFrom_run hAccepted, FetchSettings.fetchFrom_run hAccepted, hJoin]
    exact Prod.ext (congrArg (s.answerOf k r) hRows) rfl
  · intro db fault hFails
    rw [hFetch, hJoin, JoinQuery.decode_of_failsWith hFails]
  · intro db fault hAccepted hFails
    rw [FetchSettings.fetchFrom_run hAccepted, hJoin, JoinQuery.decode_of_failsWith hFails]
    rfl

/-- One campaign with one ad group. -/
def MemoryStore.pairSample : MemoryStore where
  campaigns := [.sample 1 "Brand" "core" .active]
  adGroups := [.sample 7 1 "Search" .active]

/-- The names and the creation of campaigns with active ad groups, and the status of those. -/
def Request.activeSample : Request where
  fields := ["name", "createDate", "adGroup.status"]
  filters := [⟨"adGroup.status", .equals, ["active"]⟩]
  limit := 5

/-- A timestamp may come without a fraction. A number in place of a name spoils the whole reply, and
so does a row that ends too soon. -/
theorem database_answers_sample :
    let q := FetchSettings.standard.joinQuery .campaign .activeSample
    let row : Cells := [.int 1, .text "Brand", .text "2024-01-15T09:30:00", .int 7, .text "ACTIVE"]
    let spoiled : Cells := [.int 2, .int 0, .null, .int 8, .null]
    let short : Cells := [.int 2, .text "Label"]
    let fetch := fetchFrom .standard .campaign .activeSample
    MemoryStore.pairSample.LaidOut q [row] ∧
      fetch.run.run .scripted (.start (.replies [.ok [row]])) =
        (.ok (.campaigns [⟨
          { Campaign.blank with id := some 1, name := some "Brand", createDate := sampleTime },
          [{ AdGroup.blank with id := some 7, status := some .active }]⟩]),
          ⟨.replies [], [q.statement]⟩) ∧
      fetch.run.run .scripted (.start (.replies [.ok [row, spoiled]])) =
        (.error (.execution .columnDecode), ⟨.replies [], [q.statement]⟩) ∧
      fetch.run.run .scripted (.start (.replies [.ok [row, short]])) =
        (.error (.execution .columnDecode), ⟨.replies [], [q.statement]⟩) := by
  intro q row spoiled short fetch
  have hAccepted : Request.activeSample.Accepted := by decide
  have hTable : MemoryStore.pairSample.LaidOut q [row] := by decide +kernel
  have hStore : (fetch.run.run (.ofStore fun q => .ok (MemoryStore.pairSample.fetchRows q))
      (.start .down)).1 = .ok (.campaigns [⟨
        { Campaign.blank with id := some 1, name := some "Brand", createDate := sampleTime },
        [{ AdGroup.blank with id := some 7, status := some .active }]⟩]) := by
    decide +kernel
  obtain ⟨-, hAnswer, -, hFault⟩ :=
    database_answers .pairSample q .standard .campaign .activeSample
  have hSecond : ∀ cells : Cells, cells ∈ [row, cells] :=
    fun _ => List.mem_cons_of_mem _ List.mem_cons_self
  refine ⟨hTable, ?_, ?_, ?_⟩
  · rw [← hStore]
    exact hAnswer [row] [] [] _ hAccepted hTable
  · have hName : ∀ value, ¬ (Cell.int 0).Holds .text value := fun _ h => by
      cases Cell.value_eq_ok_iff.mpr h
    refine hFault _ _ hAccepted (.row (hSecond spoiled) (.inr ?_))
    exact ⟨(.campaignName, .int 0), by decide +kernel, hName⟩
  · exact hFault _ _ hAccepted (.row (hSecond short) (.inl (by decide +kernel)))

end CampaignFetch

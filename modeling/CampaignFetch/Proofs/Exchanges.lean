import CampaignFetch.Database.Tables
import CampaignFetch.Proofs.DatabaseRows
import CampaignFetch.Proofs.ProgramRuns

/-!
# Statements with their replies

What a run sends to a database and what comes back, and what is read from one reply.

`Program.exchanges` are the statements of a run with their replies; without joins they are all that
is asked (`Program.Joinless.asked_eq`). `Program.Plays` says the same without a database: with these
exchanges the program gives this. Both agree by `Program.plays_run`, and `Plays` is taken apart
along a program (`Program.Plays.of_bind`, `Program.Plays.of_ask`).

A reply is read up to its first row, or as a whole. `Reply.Fails` lists the replies that cannot be
read.
-/

namespace CampaignFetch

/-! ## Rows -/

/-- It fails for the one reason that a row cannot be decoded. -/
def Decoded.OneFault {α : Type} (d : Decoded α) : Prop :=
  ∀ fault, d = .error fault → fault = .columnDecode

section

variable {α β : Type}

namespace Decoded

theorem oneFault_ok (a : α) : OneFault (.ok a) := fun _ h => by cases h

theorem oneFault_columnDecode : OneFault (.error .columnDecode : Decoded α) := fun _ h => by
  cases h
  rfl

theorem OneFault.bind {d : Decoded α} {f : α → Decoded β} (h : d.OneFault)
    (hNext : ∀ a, (f a).OneFault) : OneFault (d >>= f) := by
  intro fault hFault
  cases d with
  | error e =>
    cases hFault
    exact h _ rfl
  | ok a => exact hNext a fault hFault

end Decoded

namespace Cell

open Decoded

theorem oneFault_int? (c : Cell) : c.int?.OneFault := by
  cases c with
  | null => exact oneFault_ok _
  | int n => exact oneFault_ok _
  | text s => exact oneFault_columnDecode

theorem oneFault_text? (c : Cell) : c.text?.OneFault := by
  cases c with
  | null => exact oneFault_ok _
  | int n => exact oneFault_columnDecode
  | text s => exact oneFault_ok _

theorem oneFault_timestamp? (c : Cell) : c.timestamp?.OneFault := by
  cases c with
  | null => exact oneFault_ok _
  | int n => exact oneFault_columnDecode
  | text s =>
    rw [timestamp?]
    cases Calendar.Layout.document.read s with
    | ok t => exact oneFault_ok _
    | error e => exact oneFault_columnDecode

theorem oneFault_required {d : Decoded (Option α)} (h : d.OneFault) : (required d).OneFault := by
  unfold required
  split
  · exact oneFault_ok _
  · exact oneFault_columnDecode
  · rename_i e
    intro fault hFault
    cases hFault
    exact h e rfl

theorem oneFault_status (c : Cell) : c.status.OneFault := by
  refine (oneFault_required (oneFault_text? c)).bind fun s => ?_
  cases Status.ofText? s with
  | none => exact oneFault_columnDecode
  | some status => exact oneFault_ok _

end Cell

open Decoded Cell

theorem Campaign.oneFault_ofCells (cells : Cells) : (Campaign.ofCells cells).OneFault := by
  unfold Campaign.ofCells
  split
  · refine (oneFault_status _).bind fun status => ?_
    refine (oneFault_required (oneFault_int? _)).bind fun id => ?_
    refine (oneFault_text? _).bind fun name => ?_
    refine (oneFault_text? _).bind fun ksName => ?_
    refine (oneFault_timestamp? _).bind fun created => ?_
    exact (oneFault_timestamp? _).bind fun updated => oneFault_ok _
  · exact oneFault_columnDecode

theorem AdGroup.oneFault_ofCells (cells : Cells) : (AdGroup.ofCells cells).OneFault := by
  unfold AdGroup.ofCells
  split
  · refine (oneFault_status _).bind fun status => ?_
    refine (oneFault_required (oneFault_int? _)).bind fun id => ?_
    refine (oneFault_required (oneFault_int? _)).bind fun campaignId => ?_
    refine (oneFault_text? _).bind fun name => ?_
    refine (oneFault_timestamp? _).bind fun created => ?_
    exact (oneFault_timestamp? _).bind fun updated => oneFault_ok _
  · exact oneFault_columnDecode

end

/-! ## Replies -/

namespace Reply

variable {α : Type}

/-- What is read from the first row, if there is one. -/
def first (decode : Cells → Decoded α) : Reply → Decoded (Option α)
  | .error fault => .error fault
  | .ok [] => .ok none
  | .ok (cells :: _) => (decode cells).map some

/-- What is read from the first row, which must be there. -/
def one (decode : Cells → Decoded α) (reply : Reply) : Decoded α := do
  match ← reply.first decode with
  | some a => return a
  | none => throw .rowNotFound

/-- What is read from all rows. -/
def all (decode : Cells → Decoded α) (reply : Reply) : Decoded (List α) := do
  (← reply).mapM decode

end Reply

/-- How many rows of a reply are read. -/
inductive RowsRead where
  /-- The first one, if there is one. -/
  | first
  /-- The first one, which must be there. -/
  | one
  | all
  deriving DecidableEq

/-- The replies that cannot be read, with the reason. -/
inductive Reply.Fails {α : Type} (decode : Cells → Decoded α) (rows : RowsRead) :
    Reply → DatabaseFault → Prop
  /-- The statement failed. -/
  | statement (fault : DatabaseFault) : Fails decode rows (.error fault) fault
  /-- There is no row. -/
  | missing (hRows : rows = .one) : Fails decode rows (.ok []) .rowNotFound
  /-- The first row cannot be decoded. -/
  | first {cells rest fault} (hRows : rows ≠ .all) (hCells : decode cells = .error fault) :
      Fails decode rows (.ok (cells :: rest)) fault
  /-- There is a row that cannot be decoded. -/
  | row {table cells fault} (hRows : rows = .all) (hMem : cells ∈ table)
      (hCells : decode cells = .error fault) : Fails decode rows (.ok table) fault

namespace Reply

variable {α : Type} {decode : Cells → Decoded α} {reply : Reply} {fault : DatabaseFault}

theorem first_eq_none_iff : reply.first decode = .ok none ↔ reply = .ok [] := by
  unfold first
  split
  · simp
  · simp
  · rename_i cells rest
    cases decode cells <;> simp [Except.map]

theorem first_eq_some_iff {a : α} :
    reply.first decode = .ok (some a) ↔
      ∃ cells rest, reply = .ok (cells :: rest) ∧ decode cells = .ok a := by
  unfold first
  split
  · simp
  · simp
  · rename_i cells rest
    cases hCells : decode cells <;> simp [Except.map, hCells]

theorem first_eq_error_iff :
    reply.first decode = .error fault ↔ reply.Fails decode .first fault := by
  constructor
  · unfold first
    split
    · intro h
      cases h
      exact .statement fault
    · intro h
      cases h
    · rename_i cells rest
      intro h
      cases hCells : decode cells with
      | ok a =>
        rw [hCells] at h
        cases h
      | error e =>
        rw [hCells] at h
        cases h
        exact .first (by decide) hCells
  · rintro (_ | hRows | ⟨-, hCells⟩ | hRows)
    · rfl
    · cases hRows
    · rw [first, hCells]
      rfl
    · cases hRows

theorem one_eq_ok_iff {a : α} :
    reply.one decode = .ok a ↔
      ∃ cells rest, reply = .ok (cells :: rest) ∧ decode cells = .ok a := by
  rw [← first_eq_some_iff, one]
  cases reply.first decode with
  | error e => simp [bind, Except.bind]
  | ok found =>
    rw [ok_bind]
    cases found <;> simp [pure, Except.pure, throw, throwThe, MonadExceptOf.throw]

theorem fails_one_iff :
    reply.Fails decode .one fault ↔
      reply.Fails decode .first fault ∨ (reply = .ok [] ∧ fault = .rowNotFound) := by
  constructor
  · rintro (_ | _ | ⟨-, hCells⟩ | hRows)
    · exact .inl (.statement fault)
    · exact .inr ⟨rfl, rfl⟩
    · exact .inl (.first (by decide) hCells)
    · cases hRows
  · rintro ((_ | hRows | ⟨-, hCells⟩ | hRows) | ⟨rfl, rfl⟩)
    · exact .statement fault
    · cases hRows
    · exact .first (by decide) hCells
    · cases hRows
    · exact .missing rfl

theorem one_eq_error_iff :
    reply.one decode = .error fault ↔ reply.Fails decode .one fault := by
  have hNone : reply = .ok [] ↔ reply.first decode = .ok none := first_eq_none_iff.symm
  rw [fails_one_iff, ← first_eq_error_iff, hNone, one]
  cases reply.first decode with
  | error e => simp [bind, Except.bind]
  | ok found =>
    rw [ok_bind]
    cases found <;> simp [pure, Except.pure, throw, throwThe, MonadExceptOf.throw, eq_comm]

theorem all_eq_ok_iff {as : List α} :
    reply.all decode = .ok as ↔
      ∃ table, reply = .ok table ∧ List.Forall₂ (fun cells a => decode cells = .ok a) table as := by
  cases reply with
  | error e => simp [all, bind, Except.bind]
  | ok table =>
    rw [all, ok_bind, mapM_eq_ok_iff]
    simp

theorem exists_of_mapM_eq_error {table : List Cells} (h : table.mapM decode = .error fault) :
    ∃ cells ∈ table, decode cells = .error fault := by
  induction table with
  | nil => cases h
  | cons cells table ih =>
    rw [List.mapM_cons] at h
    cases hCells : decode cells with
    | error e =>
      rw [hCells] at h
      cases h
      exact ⟨cells, List.mem_cons_self, hCells⟩
    | ok a =>
      rw [hCells, ok_bind] at h
      cases hRest : table.mapM decode with
      | error e =>
        rw [hRest] at h
        cases h
        obtain ⟨cells', hMem, hCells'⟩ := ih hRest
        exact ⟨cells', List.mem_cons_of_mem _ hMem, hCells'⟩
      | ok as =>
        rw [hRest] at h
        cases h

/-- When rows fail for one reason only, a reply fails with any row of it. -/
theorem all_eq_error_iff (hFault : ∀ cells, (decode cells).OneFault) :
    reply.all decode = .error fault ↔ reply.Fails decode .all fault := by
  constructor
  · intro h
    cases reply with
    | error e =>
      cases h
      exact .statement fault
    | ok table =>
      obtain ⟨cells, hMem, hCells⟩ := exists_of_mapM_eq_error h
      exact .row rfl hMem hCells
  · rintro (_ | hRows | ⟨hRows, -⟩ | ⟨-, hMem, hCells⟩)
    · rfl
    · cases hRows
    · exact absurd rfl hRows
    · obtain rfl := hFault _ _ hCells
      exact mapM_of_error hFault hMem hCells

end Reply

/-! ## Exchanges -/

/-- A statement that was sent and its reply. -/
structure Exchange where
  statement : Statement
  reply : Reply

namespace Program

variable {α β ε ε' σ : Type}

/-- The exchanges of a run, in order. Joins are left out. -/
def exchanges (b : Backend σ) : Program α → σ → List Exchange
  | done _, _ => []
  | execute s next, state =>
    ⟨s, (b.execute s state).1⟩ ::
      (next (b.execute s state).1).exchanges b (b.execute s state).2
  | join q next, state => (next (b.join q state).1).exchanges b (b.join q state).2

/-- The program fetches no joins. -/
def Joinless : Program α → Prop
  | done _ => True
  | execute _ next => ∀ reply, (next reply).Joinless
  | join _ _ => False

/-- Then its exchanges are all that it asks. -/
theorem Joinless.asked_eq {p : Program α} (h : p.Joinless) (b : Backend σ) (state : σ) :
    p.asked b state = (p.exchanges b state).map fun e => .statement e.statement := by
  induction p generalizing state with
  | done a => rfl
  | execute s next ih => exact congrArg (List.cons (.statement s)) (ih _ (h _) _)
  | join q next => exact h.elim

theorem Joinless.bind {p : Program α} {f : α → Program β} (h : p.Joinless)
    (hNext : ∀ a, (f a).Joinless) : (p.bind f).Joinless := by
  induction p with
  | done a => exact hNext a
  | execute s next ih => exact fun reply => ih reply (h reply)
  | join q next => exact h

theorem joinless_bind {p : ExceptT ε Program α} {f : α → ExceptT ε Program β}
    (h : p.run.Joinless) (hNext : ∀ a, (f a).run.Joinless) : (p >>= f).run.Joinless := by
  refine h.bind fun x => ?_
  cases x with
  | error e => trivial
  | ok a => exact hNext a

theorem joinless_adapt {f : ε → ε'} {p : ExceptT ε Program α} (h : p.run.Joinless) :
    (ExceptT.adapt f p).run.Joinless := h.bind fun _ => trivial

theorem joinless_all {decode : Cells → Decoded α} {s : Statement} :
    (Access.all decode s).run.Joinless :=
  joinless_bind (fun _ => trivial) fun _ => trivial

theorem joinless_first? {decode : Cells → Decoded α} {s : Statement} :
    (Access.first? decode s).run.Joinless := by
  refine joinless_bind (fun _ => trivial) fun rows => ?_
  cases rows <;> trivial

theorem joinless_one {decode : Cells → Decoded α} {s : Statement} :
    (Access.one decode s).run.Joinless := by
  refine joinless_bind joinless_first? fun found => ?_
  cases found <;> trivial

/-- With these exchanges the program gives this. -/
def Plays : Program α → List Exchange → α → Prop
  | done a, es, x => es = [] ∧ x = a
  | execute s next, es, x => ∃ reply rest, es = ⟨s, reply⟩ :: rest ∧ (next reply).Plays rest x
  | join _ next, es, x => ∃ reply, (next reply).Plays es x

theorem plays_run (b : Backend σ) (p : Program α) (state : σ) :
    p.Plays (p.exchanges b state) (p.run b state).1 := by
  induction p generalizing state with
  | done a => exact ⟨rfl, rfl⟩
  | execute s next ih => exact ⟨_, _, rfl, ih _ _⟩
  | join q next ih => exact ⟨_, ih _ _⟩

namespace Plays

variable {es : List Exchange}

theorem of_bind {p : Program α} {f : α → Program β} {y : β} (h : (p.bind f).Plays es y) :
    ∃ x es₁ es₂, es = es₁ ++ es₂ ∧ p.Plays es₁ x ∧ (f x).Plays es₂ y := by
  induction p generalizing es with
  | done a => exact ⟨a, [], es, rfl, ⟨rfl, rfl⟩, h⟩
  | execute s next ih =>
    obtain ⟨reply, rest, rfl, hRest⟩ := h
    obtain ⟨x, es₁, es₂, rfl, hFirst, hSecond⟩ := ih reply hRest
    exact ⟨x, ⟨s, reply⟩ :: es₁, es₂, rfl, ⟨reply, es₁, rfl, hFirst⟩, hSecond⟩
  | join q next ih =>
    obtain ⟨reply, hRest⟩ := h
    obtain ⟨x, es₁, es₂, rfl, hFirst, hSecond⟩ := ih reply hRest
    exact ⟨x, es₁, es₂, rfl, ⟨reply, hFirst⟩, hSecond⟩

/-! ### Programs that can fail -/

/-- A sequence stops with a fault of its first part or goes on with what that gives. -/
theorem of_except_bind {p : ExceptT ε Program α} {f : α → ExceptT ε Program β} {y : Except ε β}
    (h : (p >>= f).run.Plays es y) :
    (∃ e, p.run.Plays es (.error e) ∧ y = .error e) ∨
      ∃ a es₁ es₂, es = es₁ ++ es₂ ∧ p.run.Plays es₁ (.ok a) ∧ (f a).run.Plays es₂ y := by
  obtain ⟨x, es₁, es₂, rfl, hFirst, hSecond⟩ := of_bind h
  cases x with
  | error e =>
    obtain ⟨rfl, rfl⟩ := hSecond
    exact .inl ⟨e, (List.append_nil es₁).symm ▸ hFirst, rfl⟩
  | ok a => exact .inr ⟨a, es₁, es₂, rfl, hFirst, hSecond⟩

theorem of_adapt {f : ε → ε'} {p : ExceptT ε Program α} {y : Except ε' α}
    (h : (ExceptT.adapt f p).run.Plays es y) : ∃ x, p.run.Plays es x ∧ y = x.mapError f := by
  obtain ⟨x, es₁, es₂, rfl, hFirst, rfl, rfl⟩ := of_bind h
  exact ⟨x, (List.append_nil es₁).symm ▸ hFirst, rfl⟩

theorem of_map {f : α → β} {p : ExceptT ε Program α} {y : Except ε β}
    (h : (do return f (← p) : ExceptT ε Program β).run.Plays es y) :
    ∃ x, p.run.Plays es x ∧ y = x.map f := by
  rcases of_except_bind h with ⟨e, hFirst, rfl⟩ | ⟨a, es₁, es₂, rfl, hFirst, rfl, rfl⟩
  · exact ⟨_, hFirst, rfl⟩
  · exact ⟨_, (List.append_nil es₁).symm ▸ hFirst, rfl⟩

theorem of_ask {s : Statement} {x : Reply} (h : (ask s).run.Plays es x) : es = [⟨s, x⟩] := by
  obtain ⟨reply, rest, rfl, rfl, rfl⟩ := h
  rfl

/-! ### Access to the tables -/

variable {decode : Cells → Decoded α} {s : Statement}

theorem of_all {x : Decoded (List α)} (h : (Access.all decode s).run.Plays es x) :
    ∃ reply : Reply, es = [⟨s, reply⟩] ∧ x = reply.all decode := by
  rcases of_except_bind h with ⟨e, hAsk, rfl⟩ | ⟨rows, es₁, es₂, rfl, hAsk, rfl, rfl⟩
  · exact ⟨.error e, of_ask hAsk, rfl⟩
  · obtain rfl := of_ask hAsk
    exact ⟨.ok rows, rfl, rfl⟩

theorem of_first? {x : Decoded (Option α)} (h : (Access.first? decode s).run.Plays es x) :
    ∃ reply : Reply, es = [⟨s, reply⟩] ∧ x = reply.first decode := by
  rcases of_except_bind h with ⟨e, hAsk, rfl⟩ | ⟨rows, es₁, es₂, rfl, hAsk, hRest⟩
  · exact ⟨.error e, of_ask hAsk, rfl⟩
  · obtain rfl := of_ask hAsk
    cases rows with
    | nil =>
      obtain ⟨rfl, rfl⟩ := hRest
      exact ⟨.ok [], rfl, rfl⟩
    | cons cells rest =>
      obtain ⟨rfl, rfl⟩ := hRest
      exact ⟨.ok (cells :: rest), rfl, rfl⟩

theorem of_one {x : Decoded α} (h : (Access.one decode s).run.Plays es x) :
    ∃ reply : Reply, es = [⟨s, reply⟩] ∧ x = reply.one decode := by
  rcases of_except_bind h with ⟨e, hFirst, rfl⟩ | ⟨found, es₁, es₂, rfl, hFirst, hRest⟩
  · obtain ⟨reply, rfl, hReply⟩ := of_first? hFirst
    refine ⟨reply, rfl, ?_⟩
    rw [Reply.one, ← hReply]
    rfl
  · obtain ⟨reply, rfl, hReply⟩ := of_first? hFirst
    refine ⟨reply, ?_⟩
    rw [Reply.one, ← hReply]
    cases found with
    | none =>
      obtain ⟨rfl, rfl⟩ := hRest
      exact ⟨rfl, rfl⟩
    | some a =>
      obtain ⟨rfl, rfl⟩ := hRest
      exact ⟨rfl, rfl⟩

end Plays

end Program

end CampaignFetch

import CampaignFetch.Proofs.Exchanges
import CampaignFetch.Service.Fault

/-!
# Answers of services

What the parts of a service send, and what they answer to the replies: the check of a name, one
statement for an entity that is looked for, one statement for an entity that is added.

* `Answers` relates one reply to an answer, for each of the faults and for an answer without one.
* `Program.Plays.of_requireName`, `Program.Plays.of_found`, `Program.Plays.of_added`: the parts.
-/

namespace CampaignFetch

/-! ## Answers from one reply -/

/-- What a call gives. -/
inductive Served where
  | campaign (c : Campaign)
  | adGroup (g : AdGroup)
  | adGroups (groups : List AdGroup)

/-- A row of a kind as what a call gives. -/
def Kind.served : Kind → Cells → Decoded Served
  | .campaign, cells => (Campaign.ofCells cells).map .campaign
  | .adGroup, cells => (AdGroup.ofCells cells).map .adGroup

theorem Kind.served_campaign :
    Kind.campaign.served = fun cells => (Campaign.ofCells cells).map .campaign := rfl

theorem Kind.served_adGroup :
    Kind.adGroup.served = fun cells => (AdGroup.ofCells cells).map .adGroup := rfl

namespace Reply

variable {α β : Type} {decode : Cells → Decoded α} {f : α → β} {reply : Reply}

theorem first_map :
    reply.first (fun cells => (decode cells).map f) = (reply.first decode).map (Option.map f) := by
  unfold first
  split
  · rfl
  · rfl
  · rename_i cells rest
    dsimp only
    cases decode cells <;> rfl

theorem one_map : reply.one (fun cells => (decode cells).map f) = (reply.one decode).map f := by
  rw [one, one, first_map]
  rcases reply.first decode with fault | _ | a <;> rfl

/-- What is made of the rows does not matter. -/
theorem fails_map {rows : RowsRead} {fault : DatabaseFault} :
    reply.Fails (fun cells => (decode cells).map f) rows fault ↔ reply.Fails decode rows fault := by
  have hCells : ∀ cells, (decode cells).map f = .error fault ↔ decode cells = .error fault := by
    intro cells
    cases decode cells <;> simp [Except.map]
  constructor
  · rintro (_ | hRows | ⟨hRows, hFault⟩ | ⟨hRows, hMem, hFault⟩)
    · exact .statement fault
    · exact .missing hRows
    · exact .first hRows ((hCells _).mp hFault)
    · exact .row hRows hMem ((hCells _).mp hFault)
  · rintro (_ | hRows | ⟨hRows, hFault⟩ | ⟨hRows, hMem, hFault⟩)
    · exact .statement fault
    · exact .missing hRows
    · exact .first hRows ((hCells _).mpr hFault)
    · exact .row hRows hMem ((hCells _).mpr hFault)

end Reply

/-- What holds between the last reply of a call that gives a single row and its answer. -/
structure Answers (kind : Kind) (rows : RowsRead) (target? : Option (Kind × Int)) (reply : Reply)
    (x : Except ServiceFault Served) : Prop where
  row : ∀ served, x = .ok served →
    ∃ cells rest, reply = .ok (cells :: rest) ∧ kind.served cells = .ok served
  fault : ∀ fault, x = .error (.database fault) ↔ reply.Fails kind.served rows fault
  notFound : ∀ entity id, x = .error (.notFound entity id) ↔
    ∃ kind, target? = some (kind, id) ∧ entity = kind.name ∧ reply = .ok []
  valid : ∀ field message, x ≠ .error (.invalidField field message)
  present : ∀ field, x ≠ .error (.missingReference field)

namespace Service

variable {α β : Type}

/-- The answer for an entity that is looked for. -/
def answer (kind : Kind) (id : Int) : Decoded (Option α) → Except ServiceFault α
  | .ok (some a) => .ok a
  | .ok none => .error (.notFound kind.name id)
  | .error fault => .error (.database fault)

section

variable {kind : Kind} {id : Int} {d : Decoded (Option α)}

theorem answer_eq_ok_iff {a : α} : answer kind id d = .ok a ↔ d = .ok (some a) := by
  rcases d with fault | _ | a <;> simp [answer]

theorem answer_eq_database_iff {fault : DatabaseFault} :
    answer kind id d = .error (.database fault) ↔ d = .error fault := by
  rcases d with fault | _ | a <;> simp [answer]

theorem answer_eq_notFound_iff {entity : String} {id' : Int} :
    answer kind id d = .error (.notFound entity id') ↔
      d = .ok none ∧ entity = kind.name ∧ id' = id := by
  rcases d with fault | _ | a <;> simp [answer, eq_comm]

end

theorem answer_map (kind : Kind) (id : Int) (f : α → β) (d : Decoded (Option α)) :
    answer kind id (d.map (Option.map f)) = (answer kind id d).map f := by
  rcases d with fault | _ | a <;> rfl

end Service

section

variable {kind : Kind} {reply : Reply}

theorem answers_found (id : Int) :
    Answers kind .first (some (kind, id)) reply
      (Service.answer kind id (reply.first kind.served)) := by
  constructor
  case row =>
    intro served hServed
    exact Reply.first_eq_some_iff.mp (Service.answer_eq_ok_iff.mp hServed)
  case fault =>
    intro fault
    rw [Service.answer_eq_database_iff, Reply.first_eq_error_iff]
  case notFound =>
    intro entity id'
    rw [Service.answer_eq_notFound_iff, Reply.first_eq_none_iff]
    constructor
    · rintro ⟨hNone, hEntity, rfl⟩
      exact ⟨kind, rfl, hEntity, hNone⟩
    · rintro ⟨kind', hTarget, hEntity, hNone⟩
      cases hTarget
      exact ⟨hNone, hEntity, rfl⟩
  case valid =>
    intro field message
    rcases reply.first kind.served with fault | _ | served <;> simp [Service.answer]
  case present =>
    intro field
    rcases reply.first kind.served with fault | _ | served <;> simp [Service.answer]

theorem answers_one :
    Answers kind .one none reply ((reply.one kind.served).mapError .database) := by
  constructor
  case row =>
    intro served hServed
    exact Reply.one_eq_ok_iff.mp (mapError_eq_ok hServed)
  case fault =>
    intro fault
    rw [← Reply.one_eq_error_iff]
    cases reply.one kind.served <;> simp [Except.mapError]
  case notFound =>
    intro entity id
    cases reply.one kind.served <;> simp [Except.mapError]
  case valid =>
    intro field message
    cases reply.one kind.served <;> simp [Except.mapError]
  case present =>
    intro field
    cases reply.one kind.served <;> simp [Except.mapError]

end

namespace Program.Plays

variable {α : Type} {es : List Exchange}

theorem of_looked {decode : Cells → Decoded α} {s : Statement}
    {x : Except ServiceFault (Option α)}
    (h : (Service.ofAccess (.first? decode s)).run.Plays es x) :
    ∃ reply : Reply, es = [⟨s, reply⟩] ∧ x = (reply.first decode).mapError .database := by
  obtain ⟨d, hFirst, rfl⟩ := of_adapt h
  obtain ⟨reply, rfl, rfl⟩ := of_first? hFirst
  exact ⟨reply, rfl, rfl⟩

theorem of_found {kind : Kind} {id : Int} {decode : Cells → Decoded α} {s : Statement}
    {x : Except ServiceFault α} (h : (Service.found kind id (.first? decode s)).run.Plays es x) :
    ∃ reply : Reply, es = [⟨s, reply⟩] ∧ x = Service.answer kind id (reply.first decode) := by
  rcases of_except_bind h with ⟨e, hLooked, rfl⟩ | ⟨found, es₁, es₂, rfl, hLooked, hRest⟩
  · obtain ⟨reply, rfl, hFirst⟩ := of_looked hLooked
    obtain ⟨fault, hFault, rfl⟩ := mapError_eq_error hFirst.symm
    refine ⟨reply, rfl, ?_⟩
    rw [hFault]
    rfl
  · obtain ⟨reply, rfl, hFirst⟩ := of_looked hLooked
    refine ⟨reply, ?_⟩
    rw [mapError_eq_ok hFirst.symm]
    cases found with
    | none =>
      obtain ⟨rfl, rfl⟩ := hRest
      exact ⟨rfl, rfl⟩
    | some a =>
      obtain ⟨rfl, rfl⟩ := hRest
      exact ⟨rfl, rfl⟩

theorem of_requireName {name : String} {p : Service α} {x : Except ServiceFault α}
    (h : (do Service.requireName name; p : Service α).run.Plays es x) :
    (Text.isBlankText name = true ∧ es = [] ∧
      x = .error (.invalidField "name" "must not be blank")) ∨
    (Text.isBlankText name = false ∧ p.run.Plays es x) := by
  unfold Service.requireName at h
  cases hBlank : Text.isBlankText name with
  | true =>
    rw [hBlank, if_pos rfl] at h
    obtain ⟨rfl, rfl⟩ := h
    exact .inl ⟨rfl, rfl, rfl⟩
  | false =>
    rw [hBlank, if_neg (by decide)] at h
    exact .inr ⟨rfl, h⟩

theorem of_added {kind : Kind} {decode : Cells → Decoded α} {f : α → Served} {s : Statement}
    {x : Except ServiceFault α} (h : (Service.ofAccess (.one decode s)).run.Plays es x)
    (hServed : kind.served = fun cells => (decode cells).map f) :
    ∃ reply : Reply, es = [⟨s, reply⟩] ∧ Answers kind .one none reply (x.map f) := by
  obtain ⟨d, hOne, rfl⟩ := of_adapt h
  obtain ⟨reply, rfl, rfl⟩ := of_one hOne
  refine ⟨reply, rfl, ?_⟩
  have hMap : ((reply.one decode).mapError ServiceFault.database).map f =
      ((reply.one kind.served).mapError .database) := by
    rw [hServed, Reply.one_map]
    cases reply.one decode <;> rfl
  rw [hMap]
  exact answers_one

end Program.Plays

/-! ## Joins -/

theorem Service.joinless_found {α : Type} (kind : Kind) (id : Int) (decode : Cells → Decoded α)
    (s : Statement) : (found kind id (.first? decode s)).run.Joinless := by
  refine Program.joinless_bind (Program.joinless_adapt Program.joinless_first?) fun found => ?_
  cases found <;> trivial

theorem Service.joinless_requireName (name : String) : (requireName name).run.Joinless := by
  unfold requireName
  split <;> trivial

end CampaignFetch

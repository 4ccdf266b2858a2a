import CampaignFetch.Database.Script
import CampaignFetch.Proofs.FetchPlans
import CampaignFetch.Proofs.ProgramRuns

/-!
# Requests one after the other

Requests in either direction run on one engine, in any order and whatever becomes of the ones
before. `FetchCall.Exact` says which answer a request is given when its join ends in some way. The
join is fetched once for a request whose limit and operators are checked, and never for another one.

* `FetchCall.exact_answer`: every answer is exact.
* `FetchCall.run_fetch`, `fetchAll_cons_run`, `fetchAll_append_run`: one request, and a sequence.
* `fetchAll_answers`: in a sequence every answer is exact, joins are fetched for the accepted
  requests in their order, and taking a refused request out changes nothing but its own answer.
-/

namespace CampaignFetch

/-- The first filter of the request with an unsupported operator has this one. -/
def Request.FirstUnsupported (r : Request) (operator : String) : Prop :=
  ∃ before f after, r.filters = before ++ f :: after ∧ (∀ g ∈ before, g.Supported) ∧
    f.operator = .unsupported operator

theorem Request.findSome?_unsupported?_eq_some_iff {r : Request} {operator : String} :
    r.filters.findSome? Filter.unsupported? = some operator ↔ r.FirstUnsupported operator := by
  have hOperator : ∀ f : Filter,
      f.unsupported? = some operator ↔ f.operator = .unsupported operator := by
    intro f
    unfold Filter.unsupported?
    cases f.operator <;> simp
  simp only [List.findSome?_eq_some_iff, FirstUnsupported, Filter.unsupported?_eq_none_iff,
    hOperator, and_comm]

namespace Request.FirstUnsupported

variable {r : Request} {operator operator' : String}

theorem unique (h : r.FirstUnsupported operator) (h' : r.FirstUnsupported operator') :
    operator = operator' := by
  rw [← findSome?_unsupported?_eq_some_iff] at h h'
  exact Option.some.inj (h.symm.trans h')

theorem not_accepted (h : r.FirstUnsupported operator) : ¬ r.Accepted := by
  obtain ⟨before, f, after, hFilters, -, hOperator⟩ := h
  intro hAccepted
  have hSupported := hAccepted.2 f (hFilters ▸ List.mem_append_right _ List.mem_cons_self)
  rcases hSupported with hEq | hEq <;> rw [hOperator] at hEq <;> cases hEq

end Request.FirstUnsupported

theorem asked_fetchGroups {P R σ : Type} [Entity P] [Entity R] {s : FetchSettings} {r : Request}
    (h : r.Accepted) (b : Backend σ) (state : σ) :
    (fetchGroups P R s r).run.asked b state = [.join (s.joinQuery (Entity.kind P) r)] := by
  simp only [fetchGroups, FetchSettings.plan_eq h]
  rfl

/-- A request in the direction of a primary kind. -/
structure FetchCall where
  primary : Kind
  request : Request
  deriving DecidableEq

namespace FetchCall

variable {σ : Type} (s : FetchSettings) (b : Backend σ) (c : FetchCall)

def fetch : Program (Except FetchFault Fetched) := (fetchFrom s c.primary c.request).run

def query : JoinQuery := s.joinQuery c.primary c.request

/-- What the request is answered when its join would end in some way. -/
def answer (reply : JoinReply) : Except FetchFault Fetched :=
  match c.request.refusal? with
  | some fault => .error fault
  | none => s.answerOf c.primary c.request reply

def after (state : σ) : σ :=
  if c.request.Accepted then (b.join (c.query s) state).2 else state

/-- The answer is the right one when the join of the request ends in this way. -/
structure Exact (reply : JoinReply) (answer : Except FetchFault Fetched) : Prop where
  /-- The limit is looked at first. -/
  limit : ∀ message, answer = .error (.invalidLimit message) ↔
    c.request.limit < 1 ∧
      message = "Limit must be positive, got " ++ Text.ofInt c.request.limit
  /-- Then come the operators of all filters. -/
  operator : ∀ operator, answer = .error (.unsupportedOperator operator) ↔
    1 ≤ c.request.limit ∧ c.request.FirstUnsupported operator
  /-- Only then the join can fail. -/
  execution : ∀ fault, answer = .error (.execution fault) ↔
    c.request.Accepted ∧ reply = .error fault
  /-- There are results in all other cases. -/
  results : ∀ fetched, answer = .ok fetched ↔
    c.request.Accepted ∧
      ∃ rows, reply = .ok rows ∧ fetched = s.resultsOf c.primary c.request rows

variable {s b c} {reply : JoinReply}

theorem exact_of_limit (hLimit : c.request.limit < 1) :
    c.Exact s reply (.error (.limitNotPositive c.request.limit)) := by
  have hNot : ¬ c.request.Accepted := fun h => Int.not_lt.mpr h.1 hLimit
  constructor
  · intro message
    simp [FetchFault.limitNotPositive, hLimit, eq_comm]
  · intro operator
    simp [FetchFault.limitNotPositive, Int.not_le.mpr hLimit]
  · intro fault
    simp [FetchFault.limitNotPositive, hNot]
  · intro fetched
    simp [hNot]

theorem exact_of_operator {operator : String} (hLimit : 1 ≤ c.request.limit)
    (hFirst : c.request.FirstUnsupported operator) :
    c.Exact s reply (.error (.unsupportedOperator operator)) := by
  constructor
  · intro message
    simp [Int.not_lt.mpr hLimit]
  · intro other
    simp only [Except.error.injEq, FetchFault.unsupportedOperator.injEq]
    exact ⟨fun hEq => ⟨hLimit, hEq ▸ hFirst⟩, fun h => hFirst.unique h.2⟩
  · intro fault
    simp [hFirst.not_accepted]
  · intro fetched
    simp [hFirst.not_accepted]

theorem exact_of_accepted (hAccepted : c.request.Accepted) :
    c.Exact s reply (s.answerOf c.primary c.request reply) := by
  have hLimit : ¬ c.request.limit < 1 := Int.not_lt.mpr hAccepted.1
  have hFirst : ∀ operator, ¬ c.request.FirstUnsupported operator :=
    fun _ h => h.not_accepted hAccepted
  cases reply <;> constructor <;> simp [FetchSettings.answerOf, hAccepted, hLimit, hFirst, eq_comm]

variable (s b c)

/-- Every answer is the right one, whatever the join gives or would give. -/
theorem exact_answer (reply : JoinReply) : c.Exact s reply (c.answer s reply) := by
  unfold answer
  cases hRefusal : c.request.refusal? with
  | none => exact exact_of_accepted (Request.refusal?_eq_none_iff.mp hRefusal)
  | some fault =>
    unfold Request.refusal? at hRefusal
    split at hRefusal
    · rename_i hLimit
      rw [← Option.some.inj hRefusal]
      exact exact_of_limit hLimit
    · rename_i hLimit
      obtain ⟨operator, hFound, rfl⟩ := Option.map_eq_some_iff.mp hRefusal
      exact exact_of_operator (Int.not_lt.mp hLimit)
        (Request.findSome?_unsupported?_eq_some_iff.mp hFound)

theorem run_fetch (state : σ) :
    (c.fetch s).run b state = (c.answer s (b.join (c.query s) state).1, c.after s b state) := by
  unfold fetch answer after
  cases hRefusal : c.request.refusal? with
  | some fault =>
    have hNot : ¬ c.request.Accepted := fun h => by
      rw [Request.refusal?_eq_none_iff.mpr h] at hRefusal
      cases hRefusal
    rw [FetchSettings.fetchFrom_of_refusal hRefusal, if_neg hNot]
    rfl
  | none =>
    have hAccepted := Request.refusal?_eq_none_iff.mp hRefusal
    rw [FetchSettings.fetchFrom_run hAccepted, if_pos hAccepted]
    rfl

theorem asked_fetch (state : σ) :
    (c.fetch s).asked b state = if c.request.Accepted then [.join (c.query s)] else [] := by
  unfold fetch
  split
  · rename_i hAccepted
    obtain ⟨primary, request⟩ := c
    cases primary <;> rw [fetchFrom, Program.asked_map]
    · rw [fetchCampaigns, Program.asked_map, asked_fetchGroups hAccepted]
      rfl
    · rw [fetchAdGroups, Program.asked_map, asked_fetchGroups hAccepted]
      rfl
  · rename_i hNot
    obtain ⟨fault, hRefusal⟩ := Option.ne_none_iff_exists'.mp
      (mt Request.refusal?_eq_none_iff.mp hNot)
    rw [FetchSettings.fetchFrom_of_refusal hRefusal]
    rfl

end FetchCall

/-! ## Sequences -/

/-- The fetches of several requests, in order. -/
def fetchAll (s : FetchSettings) : List FetchCall → Program (List (Except FetchFault Fetched))
  | [] => .done []
  | c :: calls => (c.fetch s).bind fun answer =>
      (fetchAll s calls).bind fun answers => .done (answer :: answers)

/-- The requests with a positive limit and supported operators. -/
def acceptedCalls (calls : List FetchCall) : List FetchCall :=
  calls.filter fun c => c.request.Accepted

theorem acceptedCalls_of_accepted {c : FetchCall} (h : c.request.Accepted)
    (calls : List FetchCall) : acceptedCalls (c :: calls) = c :: acceptedCalls calls :=
  List.filter_cons_of_pos (by simpa using h)

theorem acceptedCalls_of_refused {c : FetchCall} (h : ¬ c.request.Accepted)
    (calls : List FetchCall) : acceptedCalls (c :: calls) = acceptedCalls calls :=
  List.filter_cons_of_neg (by simpa using h)

section

variable {σ : Type} {s : FetchSettings} {b : Backend σ}

theorem fetchAll_cons_run (c : FetchCall) (calls : List FetchCall) (state : σ) :
    (fetchAll s (c :: calls)).run b state =
      (c.answer s (b.join (c.query s) state).1 ::
        ((fetchAll s calls).run b (c.after s b state)).1,
        ((fetchAll s calls).run b (c.after s b state)).2) := by
  rw [fetchAll, Program.run_bind, Program.run_bind, c.run_fetch]
  rfl

theorem fetchAll_append_run (calls others : List FetchCall) (state : σ) :
    (fetchAll s (calls ++ others)).run b state =
      (((fetchAll s calls).run b state).1 ++
        ((fetchAll s others).run b ((fetchAll s calls).run b state).2).1,
        ((fetchAll s others).run b ((fetchAll s calls).run b state).2).2) := by
  induction calls generalizing state with
  | nil => rfl
  | cons c calls ih =>
    rw [List.cons_append, fetchAll_cons_run, ih, fetchAll_cons_run]
    rfl

theorem length_fetchAll (calls : List FetchCall) (state : σ) :
    ((fetchAll s calls).run b state).1.length = calls.length := by
  induction calls generalizing state with
  | nil => rfl
  | cons c calls ih => rw [fetchAll_cons_run, List.length_cons, ih, List.length_cons]

/-- The joins of the accepted requests are fetched, in order, and nothing else is asked. -/
theorem asked_fetchAll (calls : List FetchCall) (state : σ) :
    (fetchAll s calls).asked b state =
      (acceptedCalls calls).map fun c => .join (c.query s) := by
  induction calls generalizing state with
  | nil => rfl
  | cons c calls ih =>
    have hDone : ∀ (answer : Except FetchFault Fetched) (state : σ),
        ((fetchAll s calls).bind fun answers => .done (answer :: answers)).asked b state =
          (fetchAll s calls).asked b state := fun answer state => by
      rw [Program.asked_bind]
      exact List.append_nil _
    rw [fetchAll, Program.asked_bind, c.asked_fetch, hDone, ih]
    by_cases hAccepted : c.request.Accepted
    · rw [if_pos hAccepted, acceptedCalls_of_accepted hAccepted]
      rfl
    · rw [if_neg hAccepted, acceptedCalls_of_refused hAccepted]
      rfl

/-- A scripted database gives one reply to each accepted request. -/
theorem fetchAll_scripted (calls : List FetchCall) (replies : List Reply) (sent : List Statement) :
    ((fetchAll s calls).run .scripted ⟨.replies replies, sent⟩).2 =
      ⟨.replies (replies.drop (acceptedCalls calls).length),
        ((acceptedCalls calls).map fun c => (c.query s).statement).reverse ++ sent⟩ := by
  induction calls generalizing replies sent with
  | nil => rfl
  | cons c calls ih =>
    rw [fetchAll_cons_run, FetchCall.after]
    by_cases hAccepted : c.request.Accepted
    · have hJoin : (Backend.scripted.join (c.query s) ⟨.replies replies, sent⟩).2 =
          ⟨.replies (replies.drop 1), (c.query s).statement :: sent⟩ := by
        cases replies <;> rfl
      rw [if_pos hAccepted, hJoin, ih, acceptedCalls_of_accepted hAccepted]
      simp
    · rw [if_neg hAccepted, ih, acceptedCalls_of_refused hAccepted]

/-- A refused request leaves everything but its own answer as it would be without it. -/
theorem fetchAll_of_refused (before after : List FetchCall) {c : FetchCall}
    (hNot : ¬ c.request.Accepted) (state : σ) :
    (((fetchAll s (before ++ c :: after)).run b state).1.eraseIdx before.length,
      ((fetchAll s (before ++ c :: after)).run b state).2) =
        (fetchAll s (before ++ after)).run b state := by
  have hLength := length_fetchAll (s := s) (b := b) before state
  rw [fetchAll_append_run, fetchAll_append_run, fetchAll_cons_run, FetchCall.after, if_neg hNot]
  dsimp only
  rw [← hLength, List.eraseIdx_append_of_length_le (Nat.le_refl _), Nat.sub_self,
    List.eraseIdx_cons_zero]

end

/-- Of the requests of a sequence, each is answered exactly as it has to be at the state that it
meets. Joins are fetched once for every accepted request and never for another one, so that a
scripted database gives one reply to each of them. Without a refused request all others are
answered as with it. -/
theorem fetchAll_answers {σ : Type} (s : FetchSettings) (b : Backend σ) (calls : List FetchCall)
    (state : σ) :
    ((fetchAll s calls).run b state).1.length = calls.length ∧
      (∀ i (c : FetchCall), calls[i]? = some c →
        ∃ answer, ((fetchAll s calls).run b state).1[i]? = some answer ∧
          c.Exact s (b.join (c.query s) ((fetchAll s (calls.take i)).run b state).2).1 answer) ∧
      (fetchAll s calls).asked b state =
        ((acceptedCalls calls).map fun c => .join (c.query s)) ∧
      (∀ replies sent, ((fetchAll s calls).run .scripted ⟨.replies replies, sent⟩).2 =
        ⟨.replies (replies.drop (acceptedCalls calls).length),
          ((acceptedCalls calls).map fun c => (c.query s).statement).reverse ++ sent⟩) ∧
      ∀ before (c : FetchCall) after, calls = before ++ c :: after → ¬ c.request.Accepted →
        (((fetchAll s calls).run b state).1.eraseIdx before.length,
          ((fetchAll s calls).run b state).2) = (fetchAll s (before ++ after)).run b state := by
  refine ⟨length_fetchAll calls state, ?_, asked_fetchAll calls state, fetchAll_scripted calls, ?_⟩
  · intro i c hAt
    obtain ⟨hLess, hCall⟩ := List.getElem?_eq_some_iff.mp hAt
    have hSplit : calls = calls.take i ++ c :: calls.drop (i + 1) := by
      rw [← hCall, List.getElem_cons_drop, List.take_append_drop]
    have hLength : ((fetchAll s (calls.take i)).run b state).1.length = i := by
      rw [length_fetchAll, List.length_take_of_le (Nat.le_of_lt hLess)]
    have hRun := fetchAll_append_run (s := s) (b := b) (calls.take i) (c :: calls.drop (i + 1)) state
    rw [← hSplit, fetchAll_cons_run] at hRun
    refine ⟨_, ?_, c.exact_answer s _⟩
    rw [hRun, List.getElem?_append_right (Nat.le_of_eq hLength), hLength, Nat.sub_self,
      List.getElem?_cons_zero]
  · rintro before c after rfl hNot
    exact fetchAll_of_refused before after hNot state

/-- Two requests that are refused and one whose join fails. The limit counts before the operators,
of which the first unsupported one is named although it is set on an unknown field. -/
def FetchCall.samples : List FetchCall := [
  ⟨.campaign, ⟨[], [⟨"name", .unsupported "GT", []⟩], 0⟩⟩,
  ⟨.adGroup, ⟨[], [⟨"name", .isIn, ["Search"]⟩, ⟨"colour", .unsupported "LIKE", []⟩,
    ⟨"campaign.name", .unsupported "GT", []⟩], 1⟩⟩,
  ⟨.campaign, ⟨["name"], [], 1⟩⟩]

/-- Only the third of the samples takes a reply. -/
theorem fetchAll_answers_samples :
    let run := (fetchAll .standard FetchCall.samples).run .scripted
      (.start (.replies [.error (.server "busy"), .ok []]))
    run.1[0]? = some (.error (.limitNotPositive 0)) ∧
      run.1[1]? = some (.error (.unsupportedOperator "LIKE")) ∧
      run.1[2]? = some (.error (.execution (.server "busy"))) ∧
      run.2 = ⟨.replies [.ok []],
        [(FetchSettings.standard.joinQuery .campaign ⟨["name"], [], 1⟩).statement]⟩ := by
  intro run
  obtain ⟨-, hExact, -, hScripted, -⟩ := fetchAll_answers .standard .scripted FetchCall.samples
    (.start (.replies [.error (.server "busy"), .ok []]))
  obtain ⟨first, hFirst, hFirstExact⟩ := hExact 0 _ rfl
  obtain ⟨second, hSecond, hSecondExact⟩ := hExact 1 _ rfl
  obtain ⟨third, hThird, hThirdExact⟩ := hExact 2 _ rfl
  refine ⟨?_, ?_, ?_, hScripted _ _⟩
  · rw [(hFirstExact.limit _).mpr ⟨by decide, rfl⟩] at hFirst
    exact hFirst
  · rw [(hSecondExact.operator "LIKE").mpr ⟨by decide, [_], _, [_], rfl, by decide, rfl⟩] at hSecond
    exact hSecond
  · rw [(hThirdExact.execution (.server "busy")).mpr ⟨by decide, rfl⟩] at hThird
    exact hThird

end CampaignFetch

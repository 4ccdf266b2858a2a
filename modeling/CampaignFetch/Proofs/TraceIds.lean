import CampaignFetch.Database.Script
import CampaignFetch.Http.Router
import CampaignFetch.Proofs.ProgramRuns

/-!
# Ids of responses

A request is traced by its own id or by one that is made for it; `Request.TracedBy` says which
without the way of choosing. Every response carries this id, whatever is answered and whatever the
database does, except the one to a request for the options of a path, which is answered before
there is an id.

* `Request.tracedBy_iff`: the id that is chosen, and no other.
* `Api.gives_traceId`: every way to a response.
* `response_traced_iff`: which responses carry which id.
-/

namespace CampaignFetch.Http

/-- The value of a header is visible text and not blank. -/
structure Visible (value : String) : Prop where
  visible : ∀ c ∈ value.toList, c = '\t' ∨ (32 ≤ c.toNat ∧ c.toNat < 127)
  not_blank : ∃ c ∈ value.toList, c ≠ ' ' ∧ c ≠ '\t'

namespace Request

/-- The value is the first one of a header in the request, with any case of the header's name. -/
def FirstValue (r : Request) (name value : String) : Prop :=
  ∃ before entry after, r.headers = before ++ entry :: after ∧
    Ascii.lowercase entry.1 = Ascii.lowercase name ∧ entry.2 = value ∧
    ∀ earlier ∈ before, Ascii.lowercase earlier.1 ≠ Ascii.lowercase name

/-- The id by which the request is traced: the first value of its header if that is visible text and
not blank, and one made afresh otherwise. -/
inductive TracedBy (r : Request) : TraceId → Prop
  | given {value : String} (hFirst : r.FirstValue "x-request-id" value) (hVisible : Visible value) :
    r.TracedBy (.given value)
  | generated (hNone : ∀ value, r.FirstValue "x-request-id" value → ¬ Visible value) :
    r.TracedBy .generated

end Request

/-! ## The choice of the id -/

theorem isBlank_iff_of_visible {c : Char} (h : c = '\t' ∨ (32 ≤ c.toNat ∧ c.toNat < 127)) :
    Text.isBlank c = true ↔ c = ' ' ∨ c = '\t' := by
  constructor
  · intro hBlank
    rcases h with rfl | ⟨hLow, hHigh⟩
    · exact .inr rfl
    · rw [Text.isBlank_iff_of_ascii (by omega)] at hBlank
      have hSpace : c.toNat = ' '.toNat := by
        show c.toNat = 32
        omega
      exact .inl (Char.toNat_inj.mp hSpace)
  · rintro (rfl | rfl) <;> decide

theorem visible_iff {value : String} :
    Visible value ↔ (isPlain value && !Text.isBlankText value) = true := by
  have hPlain : isPlain value = true ↔
      ∀ c ∈ value.toList, c = '\t' ∨ (32 ≤ c.toNat ∧ c.toNat < 127) := by
    simp [isPlain]
  rw [Bool.and_eq_true, hPlain, Bool.not_eq_true', Text.isBlankText, List.all_eq_false]
  constructor
  · rintro ⟨hVisible, c, hc, hSpace, hTab⟩
    refine ⟨hVisible, c, hc, fun hBlank => ?_⟩
    exact ((isBlank_iff_of_visible (hVisible c hc)).mp hBlank).elim hSpace hTab
  · rintro ⟨hVisible, c, hc, hNot⟩
    rw [isBlank_iff_of_visible (hVisible c hc), not_or] at hNot
    exact ⟨hVisible, c, hc, hNot⟩

namespace Request

variable {r : Request} {name value : String}

theorem header?_eq_some_iff : r.header? name = some value ↔ r.FirstValue name value := by
  simp only [header?, Option.map_eq_some_iff, List.find?_eq_some_iff_append, decide_eq_true_eq,
    Bool.not_eq_true', decide_eq_false_iff_not, FirstValue]
  constructor
  · rintro ⟨entry, ⟨hName, before, after, hHeaders, hBefore⟩, hValue⟩
    exact ⟨before, entry, after, hHeaders, hName, hValue, hBefore⟩
  · rintro ⟨before, entry, after, hHeaders, hName, hValue, hBefore⟩
    exact ⟨entry, ⟨hName, before, after, hHeaders, hBefore⟩, hValue⟩

theorem tracedBy_iff {id : TraceId} : r.TracedBy id ↔ Api.traceId r = id := by
  have hGiven : ∀ value, (r.header? "x-request-id").filter
      (fun id => isPlain id && !Text.isBlankText id) = some value ↔
        r.FirstValue "x-request-id" value ∧ Visible value := by
    intro value
    rw [Option.filter_eq_some_iff, ← visible_iff, header?_eq_some_iff]
  unfold Api.traceId
  cases hChosen : (r.header? "x-request-id").filter
      fun id => isPlain id && !Text.isBlankText id with
  | some chosen =>
    obtain ⟨hFirst, hVisible⟩ := (hGiven chosen).mp hChosen
    constructor
    · rintro (@⟨value, hValue, hSeen⟩ | hNone)
      · have hSame := (hGiven value).mpr ⟨hValue, hSeen⟩
        rw [hChosen] at hSame
        exact congrArg TraceId.given (Option.some.inj hSame)
      · exact absurd hVisible (hNone chosen hFirst)
    · rintro rfl
      exact .given hFirst hVisible
  | none =>
    have hNone : ∀ value, r.FirstValue "x-request-id" value → ¬ Visible value := by
      intro value hFirst hVisible
      have hSome := (hGiven value).mpr ⟨hFirst, hVisible⟩
      rw [hChosen] at hSome
      cases hSome
    constructor
    · rintro (@⟨value, hFirst, hVisible⟩ | -)
      · exact absurd hVisible (hNone value hFirst)
      · rfl
    · rintro rfl
      exact .generated hNone

end Request

/-! ## Responses -/

/-- Whatever is answered, the id is that of the request, unless that asks for options. -/
theorem Api.gives_traceId (api : Api) (r : Request) : (api.respond r).Gives fun response =>
    response.traceId = if r.method = "OPTIONS" then none else some (Api.traceId r) := by
  by_cases hOptions : r.method = "OPTIONS"
  · rw [respond_options hOptions, if_pos hOptions]
    rfl
  · rw [if_neg hOptions]
    cases hRoute : Route.ofPath? r.target.path with
    | none =>
      rw [respond_unknown hOptions hRoute]
      rfl
    | some route =>
      rw [respond_route hOptions hRoute]
      refine Program.Gives.bind (Program.gives_of_forall (fun answer => ?_) _)
      rfl

/-- Every request is traced by one id, and the response to it carries this id and no other, whatever
the database answers, exactly when the request does not ask for the options of a path. -/
theorem response_traced_iff (api : Api) (r : Request) {σ : Type} (b : Backend σ) (state : σ) :
    (∃ id, r.TracedBy id ∧ ∀ other, r.TracedBy other → other = id) ∧
      ∀ id, ((api.respond r).run b state).1.traceId = some id ↔
        r.method ≠ "OPTIONS" ∧ r.TracedBy id := by
  constructor
  · refine ⟨Api.traceId r, Request.tracedBy_iff.mpr rfl, fun other hOther => ?_⟩
    exact (Request.tracedBy_iff.mp hOther).symm
  · intro id
    rw [(api.gives_traceId r).run b state, Request.tracedBy_iff]
    by_cases hOptions : r.method = "OPTIONS" <;> simp [hOptions]

/-- A request for options brings its id, and the response to it carries none; the same request for
the content gets it back. -/
theorem response_traced_preflight :
    Request.TracedBy ⟨"OPTIONS", ⟨"/", none⟩, [("X-Request-Id", "trace-123")], ""⟩
        (.given "trace-123") ∧
      (∀ id, ((Api.respond ⟨.standard, ⟨false, "", 4⟩, 1705311000⟩
        ⟨"OPTIONS", ⟨"/", none⟩, [("X-Request-Id", "trace-123")], ""⟩).run .scripted
          (.start .down)).1.traceId ≠ some id) ∧
      ((Api.respond ⟨.standard, ⟨false, "", 4⟩, 1705311000⟩
        ⟨"GET", ⟨"/", none⟩, [("X-Request-Id", "trace-123")], ""⟩).run .scripted
          (.start .down)).1.traceId = some (.given "trace-123") := by
  refine ⟨Request.tracedBy_iff.mpr (by decide), fun id hTraced => ?_, ?_⟩
  · exact (((response_traced_iff _ _ _ _).2 id).mp hTraced).1 rfl
  · apply ((response_traced_iff _ _ _ _).2 _).mpr
    exact ⟨by decide, Request.tracedBy_iff.mpr (by decide)⟩

end CampaignFetch.Http

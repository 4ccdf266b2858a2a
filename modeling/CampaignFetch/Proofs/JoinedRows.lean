import CampaignFetch.Proofs.TimestampText
import CampaignFetch.Store.Memory
import Mathlib.Data.List.Induction

/-!
# What the rows of a join carry

`Joined` is a campaign, an ad group, or one of each, and `Joined.row` is the row that a store makes
of them.

* `Joined.text?_row`: the texts of the row are the texts of the fields.
* `Row.build_campaign`, `Row.build_adGroup`: an entity is built field by field, a field for each of
  the given columns.
* `Joined.build_campaign`, `Joined.build_adGroup`: what is built from the row is what
  `Campaign.shown` and `AdGroup.shown` leave of the entity: the selected fields, timestamps to the
  microsecond.
-/

namespace CampaignFetch

/-! ## Fields by column -/

/-- The text of a campaign's column, if it has one. -/
def Campaign.text? (c : Campaign) : Column → Option String
  | .campaignId => c.id.map Text.ofInt
  | .campaignName => c.name
  | .campaignKsName => c.ksName
  | .campaignStatus => c.status.map Status.text
  | .campaignCreateDate => c.createDate.map Calendar.Timestamp.microText
  | .campaignLastUpdated => c.lastUpdated.map Calendar.Timestamp.microText
  | _ => none

/-- The text of an ad group's column, if it has one. -/
def AdGroup.text? (a : AdGroup) : Column → Option String
  | .adGroupId => a.id.map Text.ofInt
  | .adGroupCampaignId => a.campaignId.map Text.ofInt
  | .adGroupName => a.name
  | .adGroupStatus => a.status.map Status.text
  | .adGroupCreateDate => a.createDate.map Calendar.Timestamp.microText
  | .adGroupLastUpdated => a.lastUpdated.map Calendar.Timestamp.microText
  | _ => none

/-- The campaign with the fields of the selected columns only, timestamps to the microsecond. -/
def Campaign.shown (selected : Column → Bool) (c : Campaign) : Campaign where
  id := if selected .campaignId then c.id else none
  name := if selected .campaignName then c.name else none
  ksName := if selected .campaignKsName then c.ksName else none
  status := if selected .campaignStatus then c.status else none
  createDate :=
    if selected .campaignCreateDate then c.createDate.map Calendar.Timestamp.truncate else none
  lastUpdated :=
    if selected .campaignLastUpdated then c.lastUpdated.map Calendar.Timestamp.truncate else none

/-- The ad group with the fields of the selected columns only, timestamps to the microsecond and no
campaign embedded. -/
def AdGroup.shown (selected : Column → Bool) (a : AdGroup) : AdGroup where
  id := if selected .adGroupId then a.id else none
  campaignId := if selected .adGroupCampaignId then a.campaignId else none
  campaign := none
  name := if selected .adGroupName then a.name else none
  status := if selected .adGroupStatus then a.status else none
  createDate :=
    if selected .adGroupCreateDate then a.createDate.map Calendar.Timestamp.truncate else none
  lastUpdated :=
    if selected .adGroupLastUpdated then a.lastUpdated.map Calendar.Timestamp.truncate else none

theorem Campaign.shown_congr {s t : Column → Bool} (h : ∀ x ∈ Kind.campaign.columns, s x = t x)
    (c : Campaign) : c.shown s = c.shown t := by
  simp only [Kind.columns, List.forall_mem_cons] at h
  simp [shown, h]

theorem AdGroup.shown_congr {s t : Column → Bool} (h : ∀ x ∈ Kind.adGroup.columns, s x = t x)
    (a : AdGroup) : a.shown s = a.shown t := by
  simp only [Kind.columns, List.forall_mem_cons] at h
  simp [shown, h]

/-! ## Values of fields -/

namespace Json

variable {α : Type}

theorem text?_null : Json.null.text? = none := rfl

theorem text?_ofOption_int (x : Option Int) : (ofOption .int x).text? = x.map Text.ofInt := by
  cases x <;> simp [ofOption, int, text?, sorted, text, write, Number.text]

theorem text?_ofOption_text (x : Option String) : (ofOption .string x).text? = x := by
  cases x <;> rfl

theorem text?_ofOption_string (write : α → String) (x : Option α) :
    (ofOption (fun a => .string (write a)) x).text? = x.map write := by
  cases x <;> rfl

theorem int64?_ofOption {x : Option Int} (h : ∀ n ∈ x, Text.fitsInt64 n = true) :
    (ofOption .int x).int64? = x := by
  cases x with
  | none => rfl
  | some n => simp [ofOption, int, int64?, h n rfl]

theorem status?_ofOption (x : Option Status) :
    (ofOption (fun s => .string s.text) x).status? = x := by
  cases x with
  | none => rfl
  | some s => exact Status.ofText?_text s

theorem timestamp?_ofOption (x : Option Calendar.Timestamp) :
    (ofOption (fun t => .string t.microText) x).timestamp? = x.map Calendar.Timestamp.truncate := by
  cases x with
  | none => rfl
  | some t => simp [ofOption, timestamp?, Calendar.read_microText, Except.toOption]

end Json

/-! ## Building entities -/

namespace Row

/-- The campaign that the given columns of a row make, field by field. -/
def campaign (r : Row) (columns : List Column) : Campaign where
  id := if .campaignId ∈ columns then (r.get .campaignId).int64? else none
  name := if .campaignName ∈ columns then (r.get .campaignName).text? else none
  ksName := if .campaignKsName ∈ columns then (r.get .campaignKsName).text? else none
  status := if .campaignStatus ∈ columns then (r.get .campaignStatus).status? else none
  createDate :=
    if .campaignCreateDate ∈ columns then (r.get .campaignCreateDate).timestamp? else none
  lastUpdated :=
    if .campaignLastUpdated ∈ columns then (r.get .campaignLastUpdated).timestamp? else none

/-- The ad group that the given columns of a row make, field by field. -/
def adGroup (r : Row) (columns : List Column) : AdGroup where
  id := if .adGroupId ∈ columns then (r.get .adGroupId).int64? else none
  campaignId :=
    if .adGroupCampaignId ∈ columns then (r.get .adGroupCampaignId).int64? else none
  campaign := none
  name := if .adGroupName ∈ columns then (r.get .adGroupName).text? else none
  status := if .adGroupStatus ∈ columns then (r.get .adGroupStatus).status? else none
  createDate :=
    if .adGroupCreateDate ∈ columns then (r.get .adGroupCreateDate).timestamp? else none
  lastUpdated :=
    if .adGroupLastUpdated ∈ columns then (r.get .adGroupLastUpdated).timestamp? else none

theorem build_concat {α : Type} [Entity α] (r : Row) (columns : List Column) (c : Column) :
    (r.build (columns ++ [c]) : α) = Entity.put c (r.get c) (r.build columns) := by
  simp [build]

theorem build_campaign (r : Row) (columns : List Column) :
    r.build columns = r.campaign columns := by
  induction columns using List.reverseRecOn with
  | nil => rfl
  | append_singleton columns c ih =>
    rw [build_concat, ih]
    cases c <;> simp [Entity.put, campaign]

theorem build_adGroup (r : Row) (columns : List Column) : r.build columns = r.adGroup columns := by
  induction columns using List.reverseRecOn with
  | nil => rfl
  | append_singleton columns c ih =>
    rw [build_concat, ih]
    cases c <;> simp [Entity.put, adGroup]

/-! ## Projections -/

theorem value?_project (r : Row) (columns : List Column) (c : Column) :
    (r.project columns).value? c = if c ∈ columns then some (r.get c) else none := by
  induction columns using List.reverseRecOn with
  | nil => rfl
  | append_singleton columns d ih =>
    have hConcat : r.project (columns ++ [d]) = (r.project columns).set d (r.get d) := by
      simp [project]
    rw [hConcat]
    by_cases hEq : c = d
    · simp [set, hEq]
    · simp [set, hEq, ih]

theorem get_project (r : Row) (columns : List Column) (c : Column) :
    (r.project columns).get c = if c ∈ columns then r.get c else .null := by
  rw [get, value?_project]
  split <;> rfl

theorem project_project (r : Row) (columns : List Column) :
    (r.project columns).project columns = r.project columns := by
  apply ext
  intro c
  by_cases hMem : c ∈ columns
  · simp [value?_project, get_project, hMem]
  · simp [value?_project, hMem]

/-- Columns that are projected build what they build without the projection. -/
theorem build_project {α : Type} [Entity α] {r : Row} {columns projection : List Column}
    (h : columns ⊆ projection) : ((r.project projection).build columns : α) = r.build columns := by
  have hFold : ∀ entity : α,
      columns.foldl (fun e c => Entity.put c ((r.project projection).get c) e) entity =
        columns.foldl (fun e c => Entity.put c (r.get c) e) entity := by
    induction columns with
    | nil => exact fun _ => rfl
    | cons c columns ih =>
      intro entity
      rw [List.foldl_cons, List.foldl_cons, get_project, if_pos (h List.mem_cons_self)]
      exact ih (fun d hd => h (List.mem_cons_of_mem _ hd)) _
  exact hFold _

end Row

/-! ## Rows of a store -/

/-- What a row of a join stands for. -/
structure Joined where
  campaign : Option Campaign
  adGroup : Option AdGroup
  deriving DecidableEq

namespace Joined

/-- The row of the two sides. -/
def row (j : Joined) : Row :=
  let withCampaign := (j.campaign.map fun c => Row.empty.withCampaign c).getD Row.empty
  (j.adGroup.map fun a => withCampaign.withAdGroup a).getD withCampaign

/-- The text of a column on either side. -/
def text? (j : Joined) (c : Column) : Option String :=
  (j.campaign.bind (·.text? c)).or (j.adGroup.bind (·.text? c))

/-- The identity on the side of a kind. -/
def id? (j : Joined) : Kind → Option Int
  | .campaign => j.campaign.bind (·.id)
  | .adGroup => j.adGroup.bind (·.id)

/-- The two sides can be put into a row in either order. -/
theorem withAdGroup_withCampaign (r : Row) (c : Campaign) (a : AdGroup) :
    (r.withAdGroup a).withCampaign c = (r.withCampaign c).withAdGroup a := by
  apply Row.ext
  intro column
  cases column <;> simp [Row.withCampaign, Row.withAdGroup, Row.set]

theorem text?_row (j : Joined) (column : Column) : j.row.text? column = j.text? column := by
  obtain ⟨_ | c, _ | a⟩ := j <;> cases column <;>
    simp [row, text?, Row.text?, Row.withCampaign, Row.withAdGroup, Campaign.text?, AdGroup.text?,
      Json.text?_null, Json.text?_ofOption_int, Json.text?_ofOption_text,
      Json.text?_ofOption_string]

/-- The identities on both sides, and the one that the ad group refers to, have sixty-four bits. -/
structure Fits (j : Joined) : Prop where
  campaignId : ∀ c ∈ j.campaign, ∀ n ∈ c.id, Text.fitsInt64 n = true
  adGroupId : ∀ a ∈ j.adGroup, ∀ n ∈ a.id, Text.fitsInt64 n = true
  referredId : ∀ a ∈ j.adGroup, ∀ n ∈ a.campaignId, Text.fitsInt64 n = true

/-- The campaign that a row makes is the one that it stands for, as far as columns are given. -/
theorem build_campaign {j : Joined} (h : j.Fits) {c : Campaign} (hCampaign : j.campaign = some c)
    (columns : List Column) : j.row.build columns = c.shown columns.contains := by
  have hId := Json.int64?_ofOption (h.campaignId c hCampaign)
  obtain ⟨_, _ | a⟩ := j <;> subst hCampaign <;> rw [Row.build_campaign] <;>
    simp [Row.campaign, Campaign.shown, row, Row.withCampaign, Row.withAdGroup, hId,
      Json.text?_ofOption_text, Json.status?_ofOption, Json.timestamp?_ofOption]

/-- The ad group that a row makes is the one that it stands for, as far as columns are given. -/
theorem build_adGroup {j : Joined} (h : j.Fits) {a : AdGroup} (hAdGroup : j.adGroup = some a)
    (columns : List Column) : j.row.build columns = a.shown columns.contains := by
  have hId := Json.int64?_ofOption (h.adGroupId a hAdGroup)
  have hReferred := Json.int64?_ofOption (h.referredId a hAdGroup)
  obtain ⟨_ | c, _⟩ := j <;> subst hAdGroup <;> rw [Row.build_adGroup] <;>
    simp [Row.adGroup, AdGroup.shown, row, Row.withCampaign, Row.withAdGroup, hId, hReferred,
      Json.text?_ofOption_text, Json.status?_ofOption, Json.timestamp?_ofOption]

/-- A row that stands for no ad group makes one without any field set. -/
theorem build_adGroup_none {j : Joined} (hAdGroup : j.adGroup = none) (columns : List Column) :
    j.row.build columns = AdGroup.blank := by
  obtain ⟨_ | c, _⟩ := j <;> subst hAdGroup <;> rw [Row.build_adGroup] <;>
    simp [Row.adGroup, AdGroup.blank, row, Row.withCampaign, Json.int64?, Json.text?, Json.status?,
      Json.timestamp?]

theorem get_identity (j : Joined) (k : Kind) :
    j.row.get k.identity = Json.ofOption .int (j.id? k) := by
  obtain ⟨_ | c, _ | a⟩ := j <;> cases k <;>
    simp [Kind.identity, row, id?, Row.withCampaign, Row.withAdGroup] <;> rfl

theorem fits_id? {j : Joined} (h : j.Fits) (k : Kind) : ∀ n ∈ j.id? k, Text.fitsInt64 n = true := by
  intro n hn
  cases k with
  | campaign =>
    obtain ⟨c, hc, hId⟩ := Option.mem_bind_iff.mp hn
    exact h.campaignId c hc n hId
  | adGroup =>
    obtain ⟨a, ha, hId⟩ := Option.mem_bind_iff.mp hn
    exact h.adGroupId a ha n hId

theorem orderId_row {j : Joined} (h : j.Fits) (k : Kind) :
    MemoryStore.orderId j.row k = j.id? k := by
  rw [MemoryStore.orderId, get_identity]
  cases hId : j.id? k with
  | none => rfl
  | some n =>
    have hFits := fits_id? h k n hId
    simp [Json.ofOption, Json.int, hFits]

end Joined

end CampaignFetch

import CampaignFetch.Proofs.Projection

/-!
# Rows give back what was stored

A store writes a campaign and an ad group into one row, twelve columns in all, and entities are
built from the columns that are asked for. Each column is written from one field and is read into
the same field of the same entity, so that what is built has the fields asked for and no others.

* `Entity.Independent` says that columns do not interfere: writing one changes its own field only,
  the order of writing is of no account, and columns of the other table are not read.
* `Entity.Independent.build_congr`: what is built depends on the columns of the entity's own table.
* `stored_fields`: from the row of a campaign and an ad group, any list of columns gives the fields
  of these columns, timestamps to the microsecond.
-/

namespace CampaignFetch

/-! ## Columns that do not interfere -/

/-- The columns of an entity do not interfere with one another. `clear` leaves the fields of the
selected columns. -/
structure Entity.Independent (α : Type) [Entity α] (clear : (Column → Bool) → α → α) : Prop where
  /-- Different columns can be written in either order. -/
  comm : ∀ x y : Column, x ≠ y → ∀ (v w : Json) (e : α),
    Entity.put x v (Entity.put y w e) = Entity.put y w (Entity.put x v e)
  /-- Of two values for one column the later one counts. -/
  overwrite : ∀ (x : Column) (v w : Json) (e : α),
    Entity.put x v (Entity.put x w e) = Entity.put x v e
  /-- Apart from the field of the column, everything stays as it is. -/
  frame : ∀ (x : Column) (v : Json) (e : α),
    clear (fun y => decide (y ≠ x)) (Entity.put x v e) = clear (fun y => decide (y ≠ x)) e
  /-- A column of the other table has no field. -/
  foreign : ∀ x : Column, x.kind ≠ Entity.kind α → ∀ (v : Json) (e : α), Entity.put x v e = e

theorem independent_campaign : Entity.Independent Campaign Campaign.cleared where
  comm x y h v w e := by
    cases x <;> cases y <;> first | rfl | exact absurd rfl h
  overwrite x v w e := by cases x <;> rfl
  frame x v e := by cases x <;> rfl
  foreign x h v e := by
    cases x <;> first | rfl | exact absurd rfl h

theorem independent_adGroup : Entity.Independent AdGroup AdGroup.cleared where
  comm x y h v w e := by
    cases x <;> cases y <;> first | rfl | exact absurd rfl h
  overwrite x v w e := by cases x <;> rfl
  frame x v e := by cases x <;> rfl
  foreign x h v e := by
    cases x <;> first | rfl | exact absurd rfl h

/-- No column is read into the campaign that an ad group embeds. -/
theorem AdGroup.campaign_put (x : Column) (v : Json) (a : AdGroup) :
    (Entity.put x v a).campaign = a.campaign := by
  cases x <;> rfl

namespace Entity.Independent

variable {α : Type} [Entity α] {clear : (Column → Bool) → α → α}

/-- Rows that agree on the columns of an entity's own table build the same entity. -/
theorem build_congr (h : Independent α clear) {row other : Row}
    (hRows : ∀ x : Column, x.kind = Entity.kind α → row.get x = other.get x)
    (columns : List Column) : (row.build columns : α) = other.build columns := by
  -- the columns are read from the left, so that the last one is the last step
  induction columns using List.reverseRecOn with
  | nil => rfl
  | append_singleton columns x ih =>
    rw [Row.build_concat, Row.build_concat, ih]
    by_cases hKind : x.kind = Entity.kind α
    · rw [hRows x hKind]
    · rw [h.foreign x hKind, h.foreign x hKind]

end Entity.Independent

/-! ## The row of a campaign and an ad group -/

/-- A campaign and an ad group put into a row leave nothing of what it held before. -/
theorem Joined.withAdGroup_row (row : Row) (c : Campaign) (a : AdGroup) :
    (row.withCampaign c).withAdGroup a = Joined.row ⟨some c, some a⟩ := by
  apply Row.ext
  intro x
  cases x <;> simp [Joined.row, Row.withCampaign, Row.withAdGroup, Row.set]

/-- From the row of a campaign and an ad group, put into it in either order, any list of columns
builds the campaign and the ad group with the fields of the listed columns, timestamps cut to the
microsecond, and no other field. The columns of each entity do not interfere, neither with one
another nor with the other entity, and a timestamp's text is read back as its whole microseconds. -/
theorem stored_fields {c : Campaign} {a : AdGroup} (h : Joined.Fits ⟨some c, some a⟩)
    (columns : List Column) :
    (∀ row : Row, ∀ joined ∈ [(row.withCampaign c).withAdGroup a,
        (row.withAdGroup a).withCampaign c],
      joined.build columns = c.shown columns.contains ∧
        joined.build columns = a.shown columns.contains) ∧
      (Entity.Independent Campaign Campaign.cleared ∧
        Entity.Independent AdGroup AdGroup.cleared ∧
        ∀ (x : Column) (v : Json) (b : AdGroup), (Entity.put x v b).campaign = b.campaign) ∧
      (∀ row other : Row, (∀ x : Column, x.kind = .campaign → row.get x = other.get x) →
        (row.build columns : Campaign) = other.build columns) ∧
      (∀ row other : Row, (∀ x : Column, x.kind = .adGroup → row.get x = other.get x) →
        (row.build columns : AdGroup) = other.build columns) ∧
      ∀ t : Calendar.Timestamp, Calendar.Layout.column.read t.microText = .ok t.truncate := by
  refine ⟨fun row joined hJoined => ?_,
    ⟨independent_campaign, independent_adGroup, AdGroup.campaign_put⟩,
    fun row other hRows => independent_campaign.build_congr hRows columns,
    fun row other hRows => independent_adGroup.build_congr hRows columns,
    Calendar.read_microText⟩
  have hRow : joined = Joined.row ⟨some c, some a⟩ := by
    rcases List.mem_cons.mp hJoined with rfl | hOther
    · exact Joined.withAdGroup_row row c a
    · rw [List.mem_singleton.mp hOther, Joined.withAdGroup_withCampaign, Joined.withAdGroup_row]
  rw [hRow]
  exact ⟨Joined.build_campaign h rfl columns, Joined.build_adGroup h rfl columns⟩

/-- A leap second at the beginning of the calendar and an identity at the end of its range, from
columns out of order and repeated; the name of the ad group is not read as that of the campaign. -/
theorem stored_fields_extremes :
    let leap : Calendar.Timestamp :=
      ⟨⟨-262143, 1, 1, by decide⟩, 23, 59, 60, 999999999, by decide⟩
    let c : Campaign := { Campaign.blank with
      id := some (-9223372036854775808), ksName := some "\"ÄŒ\"", createDate := some leap }
    let a : AdGroup := { AdGroup.blank with
      id := some 9223372036854775807, campaign := some c, name := some "Search" }
    let columns : List Column := [.campaignCreateDate, .adGroupName, .campaignId, .campaignName,
      .campaignCreateDate, .adGroupCampaignId]
    ((Row.empty.withCampaign c).withAdGroup a).build columns = { Campaign.blank with
        id := some (-9223372036854775808)
        createDate := some ⟨⟨-262143, 1, 1, by decide⟩, 23, 59, 60, 999999000, by decide⟩ } ∧
      ((Row.empty.withCampaign c).withAdGroup a).build columns =
        { AdGroup.blank with name := some "Search" } := by
  intro leap c a columns
  have hFits : Joined.Fits ⟨some c, some a⟩ := by
    refine ⟨fun d hd n hn => ?_, fun b hb n hn => ?_, fun b hb n hn => ?_⟩
    · cases hd
      cases hn
      rfl
    · cases hb
      cases hn
      rfl
    · cases hb
      cases hn
  obtain ⟨hCampaign, hAdGroup⟩ :=
    (stored_fields hFits columns).1 Row.empty _ List.mem_cons_self
  exact ⟨hCampaign.trans (by decide +kernel), hAdGroup.trans (by decide +kernel)⟩

end CampaignFetch

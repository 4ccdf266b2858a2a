import CampaignFetch.Model.AdGroup
import CampaignFetch.Proofs.Json.ReadBack
import CampaignFetch.Proofs.Json.RecordReaders
import CampaignFetch.Proofs.TimestampText

/-!
# Campaigns and ad groups as documents

A campaign or an ad group is written with the fields that are set and read back as it was.

* `fills_setEntries`: an optional field is filled by its entry, and stays unset without one.
* `Campaign.readsBack`, `AdGroup.readsBack`: the readers take a campaign and an ad group from their
  bytes.
* `Campaign.fits_of_read`, `AdGroup.fits_of_read`: identities that are read have sixty-four bits.
* `documents_read_back`: the round trip, the keys of the text, and that a document that can be read
  is as good as the one written for what it says.
-/

namespace CampaignFetch

open Calendar (Timestamp)
open Json

/-! ## Fields that are set -/

section

variable {α β : Type} {fields : List (Json.Field α)}

theorem fills_setEntries {name : String} {value : Json.Reader β} {write : β → Json}
    {put : Option β → α → α} {x : Option β} {entries : List (String × Option Json)} {a b : α}
    (hField : (fields.find? fun f => f.name = name) =
      some (.of name .optional (readOption value) put))
    (hValue : ∀ v ∈ x, ReadsBack (readOption value) (bytes (write v)) (some v))
    (hUnset : put none a = a) (hRest : Fills fields (setEntries entries) (put x a) b) :
    Fills fields (setEntries ((name, x.map write) :: entries)) a b := by
  cases x with
  | none =>
    rw [hUnset] at hRest
    exact hRest
  | some v =>
    exact .cons hField (ReadsBack.put (hValue v rfl)) hRest

/-- The keys are the names whose values are set. -/
theorem keys_setEntries (entries : List (String × Option Json)) :
    (setEntries entries).map (·.1) =
      ((entries.map fun e => (e.1, e.2.isSome)).filter (·.2)).map (·.1) := by
  induction entries with
  | nil => rfl
  | cons e entries ih =>
    obtain ⟨name, x⟩ := e
    cases x with
    | none => exact ih
    | some j => exact congrArg (name :: ·) ih

theorem nodup_keys_setEntries {entries : List (String × Option Json)}
    (h : (entries.map (·.1)).Nodup) : ((setEntries entries).map (·.1)).Nodup := by
  have hNames : (entries.map fun e => (e.1, e.2.isSome)).map (·.1) = entries.map (·.1) := by
    rw [List.map_map]
    rfl
  rw [keys_setEntries]
  rw [← hNames] at h
  exact h.sublist (List.filter_sublist.map _)

theorem missing?_eq_none {seen : List String} (h : ∀ f ∈ fields, f.presence ≠ .required) :
    missing? fields seen = none := by
  rw [missing?, Option.map_eq_none_iff, List.find?_eq_none]
  intro f hf
  simp [h f hf]

end

/-! ## Values of the fields -/

theorem head?_bytes_int (n : Int) : (bytes (int n)).head? ≠ some Ascii.letterN := by
  obtain ⟨b, bs, hBytes, rfl | hDigit⟩ := front_int n
  · rw [hBytes]
    exact fun hHead => absurd (Option.some.inj hHead) (by decide)
  · rw [hBytes]
    exact fun hHead => ne_of_isDigit hDigit (by decide) (Option.some.inj hHead)

theorem head?_bytes_object (entries : List (String × Json)) :
    (bytes (.object entries)).head? ≠ some Ascii.letterN := by
  have hBytes := bytes_object_append entries []
  rw [List.append_nil] at hBytes
  rw [hBytes]
  exact fun hHead => absurd (Option.some.inj hHead) (by decide)

theorem readsBack_some_int64 {n : Int} (h : Text.fitsInt64 n = true) :
    ReadsBack (readOption readInt64) (bytes (int n)) (some n) :=
  (readsBack_int64 h).option (head?_bytes_int n)

theorem readsBack_some_status (s : Status) :
    ReadsBack (readOption Status.read) (bytes (.string s.text)) (some s) := by
  have hVariant : (Status.variants.find? fun v => v.1 = s.text).map (·.2) = some s :=
    s.ofText?_text
  exact (readsBack_variant hVariant).option (head?_bytes_string _)

theorem readsBack_timestamp (t : Timestamp) : ReadsBack Timestamp.read (bytes t.toJson) t := by
  let parse (s : String) := (Calendar.Layout.document.read s).mapError (·.message)
  have hText : parse t.text = .ok t := by
    simp only [parse, Calendar.read_text]
    rfl
  exact @readsBack_parsed Timestamp parse t.text t _ hText

theorem readsBack_some_timestamp (t : Timestamp) :
    ReadsBack (readOption Timestamp.read) (bytes t.toJson) (some t) :=
  (readsBack_timestamp t).option (head?_bytes_string _)

/-! ## Campaigns -/

namespace Campaign

/-- The identity, if it is set, has sixty-four bits. -/
def Fits (c : Campaign) : Prop := ∀ n ∈ c.id, Text.fitsInt64 n = true

theorem fits_blank : blank.Fits := fun _ hn => absurd hn (Option.not_mem_none _)

/-- The names of the fields that are set. -/
def setNames (c : Campaign) : List String :=
  ([("id", c.id.isSome), ("name", c.name.isSome), ("ks_name", c.ksName.isSome),
    ("status", c.status.isSome), ("create_date", c.createDate.isSome),
    ("last_updated", c.lastUpdated.isSome)].filter (·.2)).map (·.1)

theorem nodup_keys (c : Campaign) : (c.toJson.entries.map (·.1)).Nodup := by
  have hNames : ["id", "name", "ks_name", "status", "create_date", "last_updated"].Nodup := by
    decide
  exact nodup_keys_setEntries hNames

theorem keys_toJson (c : Campaign) : c.toJson.entries.map (·.1) = c.setNames := by
  refine (keys_setEntries _).trans ?_
  simp only [setNames, List.map_cons, List.map_nil, Option.isSome_map]

/-- A campaign is read back from its document. -/
theorem readsBack {c : Campaign} (h : c.Fits) : ReadsBack Campaign.read (bytes c.toJson) c := by
  refine readsBack_record ?_ c.nodup_keys (missing?_eq_none (by simp [fields, Field.of]))
  refine fills_setEntries rfl (fun n hn => readsBack_some_int64 (h n hn)) rfl ?_
  refine fills_setEntries rfl (fun s _ => readsBack_some_text s) rfl ?_
  refine fills_setEntries rfl (fun s _ => readsBack_some_text s) rfl ?_
  refine fills_setEntries rfl (fun s _ => readsBack_some_status s) rfl ?_
  refine fills_setEntries rfl (fun t _ => readsBack_some_timestamp t) rfl ?_
  refine fills_setEntries rfl (fun t _ => readsBack_some_timestamp t) rfl ?_
  exact .nil c

end Campaign

/-! ## Ad groups -/

namespace AdGroup

/-- The identities, if they are set, have sixty-four bits, and so has that of the campaign. -/
structure Fits (a : AdGroup) : Prop where
  id : ∀ n ∈ a.id, Text.fitsInt64 n = true
  campaignId : ∀ n ∈ a.campaignId, Text.fitsInt64 n = true
  campaign : ∀ c ∈ a.campaign, c.Fits

theorem fits_blank : blank.Fits where
  id _ hn := absurd hn (Option.not_mem_none _)
  campaignId _ hn := absurd hn (Option.not_mem_none _)
  campaign _ hc := absurd hc (Option.not_mem_none _)

/-- The names of the fields that are set. -/
def setNames (a : AdGroup) : List String :=
  ([("id", a.id.isSome), ("campaign_id", a.campaignId.isSome), ("campaign", a.campaign.isSome),
    ("name", a.name.isSome), ("status", a.status.isSome), ("create_date", a.createDate.isSome),
    ("last_updated", a.lastUpdated.isSome)].filter (·.2)).map (·.1)

theorem nodup_keys (a : AdGroup) : (a.toJson.entries.map (·.1)).Nodup := by
  have hNames : ["id", "campaign_id", "campaign", "name", "status", "create_date",
      "last_updated"].Nodup := by
    decide
  exact nodup_keys_setEntries hNames

theorem keys_toJson (a : AdGroup) : a.toJson.entries.map (·.1) = a.setNames := by
  refine (keys_setEntries _).trans ?_
  simp only [setNames, List.map_cons, List.map_nil, Option.isSome_map]

/-- An ad group is read back from its document. -/
theorem readsBack {a : AdGroup} (h : a.Fits) : ReadsBack AdGroup.read (bytes a.toJson) a := by
  have hEmbedded : ∀ c ∈ a.campaign,
      ReadsBack (readOption Campaign.read) (bytes c.toJson) (some c) := fun c hc =>
    (Campaign.readsBack (h.campaign c hc)).option (head?_bytes_object _)
  refine readsBack_record ?_ a.nodup_keys (missing?_eq_none (by simp [fields, Field.of]))
  refine fills_setEntries rfl (fun n hn => readsBack_some_int64 (h.id n hn)) rfl ?_
  refine fills_setEntries rfl (fun n hn => readsBack_some_int64 (h.campaignId n hn)) rfl ?_
  refine fills_setEntries rfl hEmbedded rfl ?_
  refine fills_setEntries rfl (fun s _ => readsBack_some_text s) rfl ?_
  refine fills_setEntries rfl (fun s _ => readsBack_some_status s) rfl ?_
  refine fills_setEntries rfl (fun t _ => readsBack_some_timestamp t) rfl ?_
  refine fills_setEntries rfl (fun t _ => readsBack_some_timestamp t) rfl ?_
  exact .nil a

end AdGroup

/-! ## Documents as values of no certain type -/

theorem plain_setEntries {levels : Nat} {entries : List (String × Option Json)}
    (h : ∀ e ∈ entries, ∀ j ∈ e.2, Plain levels j) :
    Plain (levels + 1) (.object (setEntries entries)) := by
  refine .object fun e he => ?_
  obtain ⟨⟨name, x⟩, hMem, hSet⟩ := List.mem_filterMap.mp he
  obtain ⟨j, rfl, rfl⟩ := Option.map_eq_some_iff.mp hSet
  exact h _ hMem j rfl

theorem plain_of_mem_map {β : Type} {levels : Nat} {write : β → Json} {x : Option β}
    (h : ∀ v ∈ x, Plain levels (write v)) : ∀ j ∈ x.map write, Plain levels j := by
  intro j hj
  obtain ⟨v, rfl, rfl⟩ := Option.map_eq_some_iff.mp hj
  exact h v rfl

theorem Campaign.plain {c : Campaign} (h : c.Fits) (levels : Nat) :
    Plain (levels + 1) c.toJson := by
  refine plain_setEntries ?_
  simp only [List.forall_mem_cons, List.not_mem_nil, false_imp_iff, implies_true, and_true]
  exact ⟨plain_of_mem_map fun n hn => .int (h n hn), plain_of_mem_map fun s _ => .string s,
    plain_of_mem_map fun s _ => .string s, plain_of_mem_map fun s _ => .string _,
    plain_of_mem_map fun t _ => .string _, plain_of_mem_map fun t _ => .string _⟩

theorem AdGroup.plain {a : AdGroup} (h : a.Fits) (levels : Nat) :
    Plain (levels + 2) a.toJson := by
  refine plain_setEntries ?_
  simp only [List.forall_mem_cons, List.not_mem_nil, false_imp_iff, implies_true, and_true]
  exact ⟨plain_of_mem_map fun n hn => .int (h.id n hn),
    plain_of_mem_map fun n hn => .int (h.campaignId n hn),
    plain_of_mem_map fun c hc => Campaign.plain (h.campaign c hc) levels,
    plain_of_mem_map fun s _ => .string s, plain_of_mem_map fun s _ => .string _,
    plain_of_mem_map fun t _ => .string _, plain_of_mem_map fun t _ => .string _⟩

/-! ## What is read has identities of sixty-four bits -/

theorem fits_of_acceptInt64 {x : Json.Number} {n : Int} {bs rest : Bytes}
    (h : acceptInt64 x bs = .ok (n, rest)) : Text.fitsInt64 n = true := by
  unfold acceptInt64 at h
  split at h
  · split at h
    · rename_i hFits
      cases h
      exact hFits
    · cases h
  · cases h

theorem fits_of_readInt64 {n : Int} {bs rest : Bytes} (h : readInt64 bs = .ok (n, rest)) :
    Text.fitsInt64 n = true := by
  unfold readInt64 at h
  split at h
  · cases h
  · obtain ⟨x, -, hAccept⟩ := bind_eq_ok h
    exact fits_of_acceptInt64 hAccept
  · split at h
    · obtain ⟨x, -, hAccept⟩ := bind_eq_ok h
      exact fits_of_acceptInt64 hAccept
    · cases h

theorem exists_read_of_readOption {α : Type} {value : Json.Reader α} {a : α} {bs rest : Bytes}
    (h : readOption value bs = .ok (some a, rest)) :
    ∃ bs' rest', value bs' = .ok (a, rest') := by
  unfold readOption at h
  split at h
  · obtain ⟨_, -, hNone⟩ := map_eq_ok h
    cases hNone
  · obtain ⟨⟨b, more⟩, hRead, hSome⟩ := map_eq_ok h
    cases hSome
    exact ⟨_, _, hRead⟩

theorem keeps_of {α β : Type} {P : α → Prop} {name : String} {presence : Presence}
    {value : Json.Reader β} {put : β → α → α}
    (h : ∀ bs x rest, value bs = .ok (x, rest) → ∀ a, P a → P (put x a)) :
    (Field.of name presence value put).Keeps P := by
  intro bs f rest hRead a ha
  obtain ⟨⟨x, more⟩, hValue, hPut⟩ := map_eq_ok hRead
  cases hPut
  exact h _ _ _ hValue a ha

theorem fits_of_read_id {x : Option Int} {bs rest : Bytes}
    (h : readOption readInt64 bs = .ok (x, rest)) : ∀ n ∈ x, Text.fitsInt64 n = true := by
  rintro n rfl
  obtain ⟨_, _, hRead⟩ := exists_read_of_readOption h
  exact fits_of_readInt64 hRead

theorem Campaign.fits_of_read {c : Campaign} {bs rest : Bytes}
    (h : Campaign.read bs = .ok (c, rest)) : c.Fits := by
  refine readRecord_keeps ?_ fits_blank h
  simp only [fields, List.forall_mem_cons, List.not_mem_nil, false_imp_iff, implies_true, and_true]
  exact ⟨keeps_of fun _ _ _ hRead _ _ => fits_of_read_id hRead, keeps_of fun _ _ _ _ _ h => h,
    keeps_of fun _ _ _ _ _ h => h, keeps_of fun _ _ _ _ _ h => h, keeps_of fun _ _ _ _ _ h => h,
    keeps_of fun _ _ _ _ _ h => h⟩

theorem AdGroup.fits_of_read {a : AdGroup} {bs rest : Bytes}
    (h : AdGroup.read bs = .ok (a, rest)) : a.Fits := by
  have hEmbedded : ∀ bs x rest, readOption Campaign.read bs = .ok (x, rest) →
      ∀ c ∈ x, c.Fits := by
    rintro bs x rest hRead c rfl
    obtain ⟨_, _, hCampaign⟩ := exists_read_of_readOption hRead
    exact Campaign.fits_of_read hCampaign
  refine readRecord_keeps ?_ fits_blank h
  simp only [fields, List.forall_mem_cons, List.not_mem_nil, false_imp_iff, implies_true, and_true]
  exact ⟨keeps_of fun _ _ _ hRead _ h => { h with id := fits_of_read_id hRead },
    keeps_of fun _ _ _ hRead _ h => { h with campaignId := fits_of_read_id hRead },
    keeps_of fun _ _ _ hRead _ h => { h with campaign := hEmbedded _ _ _ hRead },
    keeps_of fun _ _ _ _ _ h => { h with }, keeps_of fun _ _ _ _ _ h => { h with },
    keeps_of fun _ _ _ _ _ h => { h with }, keeps_of fun _ _ _ _ _ h => { h with }⟩

theorem exists_read_of_readWhole {α : Type} {value : Json.Reader α} {document : Bytes} {a : α}
    (h : readWhole value document = .ok a) : ∃ rest, value document = .ok (a, rest) := by
  obtain ⟨⟨b, rest⟩, hRead, h⟩ := bind_eq_ok h
  dsimp only at h
  split at h
  · cases h
    exact ⟨rest, hRead⟩
  · cases h

/-! ## The round trips -/

/-- A campaign or an ad group is read back from its text, and the text is an object whose keys are
the names of the fields that are set, each once; the campaign inside an ad group is one, too. What
is read from any document is therefore read again from what is written for it. -/
theorem documents_read_back :
    (∀ c : Campaign, c.Fits →
      readWhole Campaign.read (Text.encode c.toJson.text) = .ok c ∧
        ∃ entries, Json.parse? 127 c.toJson.text = .ok (.object entries) ∧
          entries.map (·.1) = c.setNames) ∧
    (∀ a : AdGroup, a.Fits →
      readWhole AdGroup.read (Text.encode a.toJson.text) = .ok a ∧
        ∃ entries, Json.parse? 127 a.toJson.text = .ok (.object entries) ∧
          entries.map (·.1) = a.setNames ∧
          ∀ c ∈ a.campaign, ∃ inner, ("campaign", Json.object inner) ∈ entries ∧
            inner.map (·.1) = c.setNames) ∧
    (∀ document c, readWhole Campaign.read document = .ok c →
      readWhole Campaign.read (Text.encode c.toJson.text) = .ok c) ∧
    ∀ document a, readWhole AdGroup.read document = .ok a →
      readWhole AdGroup.read (Text.encode a.toJson.text) = .ok a := by
  have hCampaign : ∀ c : Campaign, c.Fits →
      readWhole Campaign.read (Text.encode c.toJson.text) = .ok c := by
    intro c hFits
    rw [encode_text]
    exact (Campaign.readsBack hFits).readWhole
  have hAdGroup : ∀ a : AdGroup, a.Fits →
      readWhole AdGroup.read (Text.encode a.toJson.text) = .ok a := by
    intro a hFits
    rw [encode_text]
    exact (AdGroup.readsBack hFits).readWhole
  refine ⟨fun c hFits => ⟨hCampaign c hFits, ?_⟩, fun a hFits => ⟨hAdGroup a hFits, ?_⟩,
    fun document c hRead => ?_, fun document a hRead => ?_⟩
  · exact ⟨_, parse?_text (Campaign.plain hFits 126), c.keys_toJson⟩
  · refine ⟨_, parse?_text (AdGroup.plain hFits 125), a.keys_toJson, fun c hc => ?_⟩
    refine ⟨c.toJson.entries, List.mem_filterMap.mpr ?_, c.keys_toJson⟩
    have hEntry : ("campaign", a.campaign.map (·.toJson)) = ("campaign", some c.toJson) := by
      rw [Option.mem_def.mp hc]
      rfl
    exact ⟨_, .tail _ (.tail _ (.head _)), by rw [hEntry]; rfl⟩
  · obtain ⟨rest, hPart⟩ := exists_read_of_readWhole hRead
    exact hCampaign c (Campaign.fits_of_read hPart)
  · obtain ⟨rest, hPart⟩ := exists_read_of_readWhole hRead
    exact hAdGroup a (AdGroup.fits_of_read hPart)

/-- The last nanosecond of a leap second, before the year zero. -/
def lastLeapMoment : Timestamp := ⟨⟨-4, 2, 29, by decide⟩, 23, 59, 60, 999999999, by decide⟩

/-- A campaign with the least identity, and with quotes and control characters in its name. -/
def oddCampaign : Campaign :=
  ⟨some Text.int64Min, some "\"\\\x00\n", none, some .deleted, some lastLeapMoment, none⟩

/-- An ad group with a blank name that embeds the odd campaign. -/
def oddAdGroup : AdGroup :=
  ⟨some 7, none, some oddCampaign, some "", none, none, some lastLeapMoment⟩

theorem fits_oddCampaign : oddCampaign.Fits := by
  intro n hn
  cases hn
  decide

theorem fits_oddAdGroup : oddAdGroup.Fits where
  id n hn := by
    cases hn
    decide
  campaignId n hn := absurd hn (Option.not_mem_none n)
  campaign c hc := by
    cases hc
    exact fits_oddCampaign

theorem documents_read_back_odd :
    (oddCampaign.Fits ∧
      readWhole Campaign.read (Text.encode oddCampaign.toJson.text) = .ok oddCampaign) ∧
    (oddAdGroup.Fits ∧
      ∃ entries, Json.parse? 127 oddAdGroup.toJson.text = .ok (.object entries) ∧
        entries.map (·.1) = ["id", "campaign", "name", "last_updated"] ∧
        ∃ inner, ("campaign", Json.object inner) ∈ entries ∧
          inner.map (·.1) = ["id", "name", "status", "create_date"]) ∧
    readWhole AdGroup.read (Text.encode oddAdGroup.toJson.text) = .ok oddAdGroup := by
  obtain ⟨hCampaign, hAdGroup, hCampaignAgain, hAdGroupAgain⟩ := documents_read_back
  obtain ⟨hRead, -⟩ := hCampaign oddCampaign fits_oddCampaign
  obtain ⟨hRead', entries, hParse, hKeys, hInner⟩ := hAdGroup oddAdGroup fits_oddAdGroup
  exact ⟨⟨fits_oddCampaign, hCampaignAgain _ _ hRead⟩,
    ⟨fits_oddAdGroup, entries, hParse, hKeys, hInner oddCampaign rfl⟩, hAdGroupAgain _ _ hRead'⟩

end CampaignFetch

import CampaignFetch.Proofs.Sql.Query
import CampaignFetch.Proofs.TableWrites

/-!
# What queries find in the tables

A query looks at the tables as they are when it is executed. It gives one row for every choice of a
row from each of its tables that passes its tests, in the order of a column. A comparison with null
is not passed.

* `Sql.Query.Finds` are the rows that a query gives.
* `Statement.Runs` is a statement on the tables, as `Statement.Executes`, which also says what
  queries give.
* `Sql.Query.Matches.live`, `Sql.Query.matches_campaignsWith_iff`: what the two queries of the
  tables ask for.
-/

namespace CampaignFetch

/-- The value of a column when a row is chosen from each table by its identity. -/
def Tables.cell (t : Tables) (ids : Kind → Int) (c : Column) : Cell :=
  ((t c.kind (ids c.kind)).map fun r => r c).getD .null

theorem Tables.cell_eq {t : Tables} {ids : Kind → Int} {kind : Kind} {r : Record} {c : Column}
    (hRow : t kind (ids kind) = some r) (hKind : c.kind = kind) : t.cell ids c = r c := by
  subst hKind
  rw [cell, hRow]
  rfl

theorem Tables.map_cell_columns {t : Tables} {ids : Kind → Int} {kind : Kind} {r : Record}
    (hRow : t kind (ids kind) = some r) : kind.columns.map (t.cell ids) = kind.columns.map r :=
  List.map_congr_left fun _ hColumn => cell_eq hRow (mem_columns_iff.mp hColumn)

theorem Tables.Sound.cell_identity {t : Tables} (h : t.Sound) {ids : Kind → Int} {kind : Kind}
    (hRow : (t kind (ids kind)).isSome = true) : t.cell ids kind.identity = .int (ids kind) := by
  obtain ⟨r, hr⟩ := Option.isSome_iff_exists.mp hRow
  exact (cell_eq hr kind.identity_kind).trans (h kind _ r hr).identity

namespace Sql

/-- The value with a number. -/
def value? (params : List Param) (number : Nat) : Option Param :=
  if number = 0 then none else params[number - 1]?

/-- The values of the columns pass the test. -/
def Test.Holds (params : List Param) (value : Column → Cell) : Test → Prop
  | .columns c d => value c ≠ .null ∧ value c = value d
  | .equals c number =>
    value c ≠ .null ∧ (value? params number).bind Param.cell? = some (value c)
  | .differs c number => value c ≠ .null ∧
    ∃ cell, (value? params number).bind Param.cell? = some cell ∧ cell ≠ .null ∧ value c ≠ cell
  | .isAny c number =>
    ∃ n members, value? params number = some (.ints members) ∧ value c = .int n ∧ n ∈ members

namespace Query

/-- The rows that are chosen by their identities are there and pass the tests. -/
def Matches (q : Query) (params : List Param) (t : Tables) (ids : Kind → Int) : Prop :=
  (∀ kind ∈ q.kinds, (t kind (ids kind)).isSome = true) ∧
    ∀ test ∈ q.tests, test.Holds params (t.cell ids)

/-- The choices that match, each once, in order. -/
structure Selects (q : Query) (params : List Param) (t : Tables) (found : List (Kind → Int)) :
    Prop where
  sound : ∀ ids ∈ found, q.Matches params t ids
  complete : ∀ ids, q.Matches params t ids → ∃ ids' ∈ found, ∀ kind ∈ q.kinds, ids' kind = ids kind
  once : found.Pairwise fun ids ids' => ∃ kind ∈ q.kinds, ids kind ≠ ids' kind
  ordered : found.Pairwise fun ids ids' =>
    ∀ m n, t.cell ids q.order = .int m → t.cell ids' q.order = .int n → m ≤ n

/-- The query gives these rows, one for every choice. -/
def Finds (q : Query) (params : List Param) (t : Tables) (rows : List Cells) : Prop :=
  ∃ found, q.Selects params t found ∧ rows = found.map fun ids => q.returned.map (t.cell ids)

variable {q : Query} {params : List Param} {t : Tables} {rows : List Cells} {ids : Kind → Int}

theorem Finds.exists_matches (h : q.Finds params t rows) {cells : Cells} (hMem : cells ∈ rows) :
    ∃ ids, q.Matches params t ids ∧ cells = q.returned.map (t.cell ids) := by
  obtain ⟨found, hSelects, rfl⟩ := h
  obtain ⟨ids, hFound, rfl⟩ := List.mem_map.mp hMem
  exact ⟨ids, hSelects.sound ids hFound, rfl⟩

theorem Finds.mem_of_matches (h : q.Finds params t rows) (hMatches : q.Matches params t ids) :
    ∃ ids', (∀ kind ∈ q.kinds, ids' kind = ids kind) ∧ q.returned.map (t.cell ids') ∈ rows := by
  obtain ⟨found, hSelects, rfl⟩ := h
  obtain ⟨ids', hFound, hSame⟩ := hSelects.complete ids hMatches
  exact ⟨ids', hSame, List.mem_map.mpr ⟨ids', hFound, rfl⟩⟩

/-- A single match gives a single row. -/
theorem Finds.of_unique (hMatches : q.Matches params t ids)
    (hUnique : ∀ ids', q.Matches params t ids' → ∀ kind ∈ q.kinds, ids kind = ids' kind) :
    q.Finds params t [q.returned.map (t.cell ids)] := by
  refine ⟨[ids], ⟨?_, ?_, List.pairwise_singleton _ _, List.pairwise_singleton _ _⟩, rfl⟩
  · intro ids' hMem
    rw [List.mem_singleton.mp hMem]
    exact hMatches
  · intro ids' h
    exact ⟨ids, List.mem_cons_self, hUnique ids' h⟩

end Query

end Sql

/-- A statement is executed; a query gives the rows that it finds. -/
structure Statement.Runs (s : Statement) (t : Tables) (reply : Reply) (t' : Tables) : Prop where
  executes : s.Executes t reply t'
  finds : ∀ q rows, Sql.Query.ofText? s.sql = some q → reply = .ok rows → q.Finds s.params t rows

theorem Statement.Runs.of_finds {s : Statement} {t : Tables} {q : Sql.Query} {rows : List Cells}
    (hText : Sql.Query.ofText? s.sql = some q)
    (hQuery : Sql.Command.ofText? s.sql = some .query) (hFinds : q.Finds s.params t rows) :
    s.Runs t (.ok rows) t := by
  refine ⟨.ran hQuery .query, fun q' rows' hText' hReply => ?_⟩
  rw [hText] at hText'
  cases hText'
  cases hReply
  exact hFinds

/-- The campaign is not deleted and has the name. -/
def Record.Carries (ksName : String) (r : Record) : Prop :=
  r .campaignKsName = .text ksName ∧ r .campaignStatus ≠ .text Status.deleted.text

namespace Sql.Query

variable {t : Tables} {ids : Kind → Int}

/-- What the query for live ad groups asks of a choice of rows. -/
theorem Matches.live {ksName : String}
    (h : live.Matches (AdGroupTable.selectLive ksName).params t ids) (hSound : t.Sound) :
    ∃ group campaign, t .adGroup (ids .adGroup) = some group ∧
      group .adGroupCampaignId = .int (ids .campaign) ∧
      group .adGroupStatus ≠ .text Status.deleted.text ∧
      t .campaign (ids .campaign) = some campaign ∧ campaign.Carries ksName := by
  obtain ⟨hRows, hTests⟩ := h
  simp only [Query.live, List.forall_mem_cons, Test.Holds] at hRows hTests
  obtain ⟨hGroupRow, hCampaignRow, -⟩ := hRows
  obtain ⟨⟨-, hJoined⟩, ⟨-, hName⟩, hCampaignLive, hGroupLive, -⟩ := hTests
  obtain ⟨group, hGroup⟩ := Option.isSome_iff_exists.mp hGroupRow
  obtain ⟨campaign, hCampaign⟩ := Option.isSome_iff_exists.mp hCampaignRow
  have hNotDeleted : ∀ c, (t.cell ids c ≠ .null ∧ ∃ cell,
      (value? (AdGroupTable.selectLive ksName).params 2).bind Param.cell? = some cell ∧
        cell ≠ .null ∧ t.cell ids c ≠ cell) → t.cell ids c ≠ .text Status.deleted.text := by
    rintro c ⟨-, cell, hValue, -, hNe⟩
    cases hValue
    exact hNe
  have hId : t.cell ids .campaignId = .int (ids .campaign) := hSound.cell_identity hCampaignRow
  rw [Tables.cell_eq hGroup rfl, hId] at hJoined
  rw [Tables.cell_eq hCampaign rfl] at hName
  refine ⟨group, campaign, hGroup, hJoined, ?_, hCampaign, (Option.some.inj hName).symm, ?_⟩
  · rw [← Tables.cell_eq hGroup rfl]
    exact hNotDeleted _ hGroupLive
  · rw [← Tables.cell_eq hCampaign rfl]
    exact hNotDeleted _ hCampaignLive

/-- What the query for campaigns by identity asks of a choice of rows. -/
theorem matches_campaignsWith_iff {wanted : List Int} (hSound : t.Sound) :
    campaignsWith.Matches [.ints wanted] t ids ↔
      ids .campaign ∈ wanted ∧ (t .campaign (ids .campaign)).isSome = true := by
  simp only [Matches, campaignsWith, List.forall_mem_singleton, Test.Holds]
  constructor
  · rintro ⟨hRow, n, members, hValue, hCell, hMem⟩
    rw [show t.cell ids .campaignId = _ from hSound.cell_identity hRow] at hCell
    cases hValue
    cases hCell
    exact ⟨hMem, hRow⟩
  · rintro ⟨hMem, hRow⟩
    exact ⟨hRow, _, wanted, rfl, hSound.cell_identity hRow, hMem⟩

end Sql.Query

end CampaignFetch

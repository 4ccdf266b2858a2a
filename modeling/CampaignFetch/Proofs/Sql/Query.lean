import CampaignFetch.Proofs.Sql.Command

/-!
# Queries in the texts of statements

A query that gives several rows says in its text from which tables they come, what is asked of
them, which columns are given and how the rows are ordered. `Query.ofText?` reads this from the text
alone. Every table occurs once, so that a column says which table it is of.

`ofText?_selectLive` and `ofText?_selectAll` read the two queries of the tables.
-/

namespace CampaignFetch

namespace Sql

/-- What a query asks of rows. A column is compared with another one or with a value, and values are
numbered from one on. -/
inductive Test where
  | columns (first second : Column)
  | equals (column : Column) (number : Nat)
  | differs (column : Column) (number : Nat)
  | isAny (column : Column) (number : Nat)
  deriving DecidableEq, Repr

/-- A query over one or more tables. -/
structure Query where
  kinds : List Kind
  tests : List Test
  returned : List Column
  order : Column
  deriving DecidableEq, Repr

namespace Query

/-! ## Parts of queries -/

/-- A table of a query, with what stands in front of the names of its columns. -/
abbrev Source := String × Kind

/-- The table that the words name, with its other name if it is given one. -/
def source? : List String → Option Source
  | [table] => (Command.kind? table).map fun kind => ("", kind)
  | [table, name] => (Command.kind? table).map fun kind => (name ++ ".", kind)
  | _ => none

/-- The column of one of the tables that the words name. -/
def column? (sources : List Source) : List String → Option Column
  | [word] => (sources.flatMap fun source =>
      source.2.columns.map fun c => (source.1 ++ c.name, c)).lookup word
  | _ => none

/-- The number of the value that the word stands for. -/
def number? (word : String) : Option Nat :=
  match Command.operand? [word] with
  | some (.param number) => some number
  | _ => none

/-- The test that the words write. -/
def test? (sources : List Source) : List String → Option Test
  | [column, "=", other] => do
    let column ← column? sources [column]
    match number? other with
    | some number => return .equals column number
    | none => return .columns column (← column? sources [other])
  | [column, "<", ">", value] => do
    return .differs (← column? sources [column]) (← number? value)
  | [column, "=", "ANY", "(", value, ")"] => do
    return .isAny (← column? sources [column]) (← number? value)
  | _ => none

/-- The tables that the words name, and the words of the test by which they are joined. -/
def sources? (words : List String) : Option (List Source × List (List String)) := do
  let first ← source? (words.takeWhile (· ≠ "INNER"))
  match words.dropWhile (· ≠ "INNER") with
  | [] => return ([first], [])
  | "INNER" :: "JOIN" :: rest =>
    let second ← source? (rest.takeWhile (· ≠ "ON"))
    return ([first, second], [(rest.dropWhile (· ≠ "ON")).drop 1])
  | _ => none

/-! ## Queries -/

def ofWords? : List String → Option Query
  | "SELECT" :: words => do
    let fromWords := (words.dropWhile (· ≠ "FROM")).drop 1
    let whereWords := (fromWords.dropWhile (· ≠ "WHERE")).drop 1
    let (sources, joined) ← sources? (fromWords.takeWhile (· ≠ "WHERE"))
    let tests := joined ++ Text.pieces "AND" (whereWords.takeWhile (· ≠ "ORDER"))
    match whereWords.dropWhile (· ≠ "ORDER") with
    | ["ORDER", "BY", order] =>
      return {
        kinds := sources.map (·.2)
        tests := ← tests.mapM (test? sources)
        returned := ← (Text.pieces "," (words.takeWhile (· ≠ "FROM"))).mapM (column? sources)
        order := ← column? sources [order] }
    | _ => none
  | _ => none

/-- The query that a text writes. -/
def ofText? (text : String) : Option Query := ofWords? (Command.words text.toList)

theorem ofText?_eq {text first second third : String} {cs ds es : List Char}
    (hText : text = first ++ second ++ third) (hFirst : first = String.ofList cs)
    (hSecond : second = String.ofList ds) (hThird : third = String.ofList es) :
    ofText? text = ofWords? (Command.words (cs ++ ds ++ es)) := by
  rw [ofText?, hText, String.toList_append, String.toList_append, hFirst, hSecond, hThird,
    String.toList_ofList, String.toList_ofList, String.toList_ofList]

/-- Live ad groups, each together with a live campaign of a name. -/
def live : Query where
  kinds := [.adGroup, .campaign]
  tests := [.columns .adGroupCampaignId .campaignId, .equals .campaignKsName 1,
    .differs .campaignStatus 2, .differs .adGroupStatus 2]
  returned := Kind.adGroup.columns
  order := .adGroupId

/-- The campaigns with given identities. -/
def campaignsWith : Query where
  kinds := [.campaign]
  tests := [.isAny .campaignId 1]
  returned := Kind.campaign.columns
  order := .campaignId

theorem ofText?_selectLive (ksName : String) :
    ofText? (AdGroupTable.selectLive ksName).sql = some live := by
  have hText : (AdGroupTable.selectLive ksName).sql =
      "SELECT ag.id, ag.campaign_id, ag.name, ag.status, ag.create_date, ag.last_updated " ++
        "FROM ad_group ag INNER JOIN campaign c ON ag.campaign_id = c.id " ++
          "WHERE c.ks_name = $1 AND c.status <> $2 AND ag.status <> $2 ORDER BY ag.id" := rfl
  rw [ofText?_eq hText rfl rfl rfl]
  decide +kernel

theorem ofText?_selectAll :
    ofText? ("SELECT " ++ Kind.campaign.columnList ++
        " FROM campaign WHERE id = ANY($1) ORDER BY id") = some campaignsWith := by
  rw [Command.columnList_campaign, ofText?_eq rfl rfl rfl rfl]
  decide +kernel

end Query

end Sql

end CampaignFetch

import CampaignFetch.Database.Tables

/-!
# Commands in the texts of statements

A statement that writes says in its text which table it writes to, which columns, and which of its
values goes where. `Command.ofText?` reads this from the text alone, word by word. A text that it
cannot read is left open; one that it reads as a query changes no table.

`ofText?_eq` makes reading a text a matter of its characters, and the sections below read the texts
of the statements that write, or look for a row.
-/

namespace CampaignFetch

/-- The column with the name of the entities of a kind. -/
def Kind.nameColumn : Kind → Column
  | .campaign => .campaignName
  | .adGroup => .adGroupName

/-- The column with their status. -/
def Kind.statusColumn : Kind → Column
  | .campaign => .campaignStatus
  | .adGroup => .adGroupStatus

/-- The column with the time when they were made. -/
def Kind.createdColumn : Kind → Column
  | .campaign => .campaignCreateDate
  | .adGroup => .adGroupCreateDate

/-- The column with the time when they were last changed. -/
def Kind.updatedColumn : Kind → Column
  | .campaign => .campaignLastUpdated
  | .adGroup => .adGroupLastUpdated

namespace Sql

/-- Where a command takes a value from. -/
inductive Operand where
  /-- The value with a number, from one on. -/
  | param (number : Nat)
  /-- The time at which the command is executed. -/
  | now
  deriving DecidableEq, Repr

/-- What a statement does. -/
inductive Command where
  /-- Adds a row with values for some of its columns. -/
  | insert (kind : Kind) (columns : List Column) (operands : List Operand)
      (returned : List Column)
  /-- Sets columns of the row with an identity. -/
  | update (kind : Kind) (assignments : List (Column × Operand)) (key : Operand)
      (returned : List Column)
  /-- Gives the row with an identity. -/
  | select (kind : Kind) (key : Operand) (returned : List Column)
  /-- Gives rows and changes nothing. -/
  | query
  deriving DecidableEq, Repr

namespace Command

/-! ## Words -/

/-- Whether the character goes on a word. -/
def goesOn (c : Char) : Bool := c.isAlphanum || ['_', '$', '.'].contains c

/-- The words and single signs of a text, with nothing between two of them that touch. -/
def pieces : List Char → List (List Char)
  | [] => [[]]
  | c :: cs =>
    if c = ' ' then [] :: pieces cs
    else if goesOn c then
      match pieces cs with
      | word :: rest => (c :: word) :: rest
      | [] => [[c]]
    else [] :: [c] :: pieces cs

/-- The words and single signs of a text. -/
def words (cs : List Char) : List String :=
  ((pieces cs).filter fun word => !word.isEmpty).map String.ofList

/-! ## Parts of commands -/

/-- The kind whose table has the name. -/
def kind? (table : String) : Option Kind := [Kind.campaign, .adGroup].find? (·.table = table)

/-- The column of a kind that the words name. -/
def column? (kind : Kind) : List String → Option Column
  | [name] => kind.columns.find? (·.name = name)
  | _ => none

/-- The columns of a kind that a list names. -/
def columns? (kind : Kind) (names : List String) : Option (List Column) :=
  (Text.pieces "," names).mapM (column? kind)

/-- The operand that the words write. -/
def operand? : List String → Option Operand
  | ["now", "(", ")"] => some .now
  | [word] =>
    match word.toList with
    | '$' :: digits => (Text.digits? digits).map .param
    | _ => none
  | _ => none

/-- The assignment to a column of a kind that the words write. -/
def assignment? (kind : Kind) : List String → Option (Column × Operand)
  | name :: "=" :: operand => do return (← column? kind [name], ← operand? operand)
  | _ => none

/-! ## Commands -/

/-- Reads what follows the parenthesis before the columns of a new row. -/
def insert? (kind : Kind) (rest : List String) : Option Command := do
  let columns ← columns? kind (rest.takeWhile (· ≠ ")"))
  match rest.dropWhile (· ≠ ")") with
  | ")" :: "VALUES" :: "(" :: rest =>
    let operands ← (Text.pieces "," (rest.takeWhile (· ≠ ")"))).mapM operand?
    match rest.dropWhile (· ≠ ")") with
    | ")" :: "RETURNING" :: returned =>
      return .insert kind columns operands (← columns? kind returned)
    | _ => none
  | _ => none

/-- Reads what follows the word before the assignments. -/
def update? (kind : Kind) (rest : List String) : Option Command := do
  let assignments ← (Text.pieces "," (rest.takeWhile (· ≠ "WHERE"))).mapM (assignment? kind)
  match rest.dropWhile (· ≠ "WHERE") with
  | "WHERE" :: "id" :: "=" :: rest =>
    let key ← operand? (rest.takeWhile (· ≠ "RETURNING"))
    match rest.dropWhile (· ≠ "RETURNING") with
    | "RETURNING" :: returned => return .update kind assignments key (← columns? kind returned)
    | _ => none
  | _ => none

/-- Reads what follows the word before the columns of a single row. -/
def select? (rest : List String) : Option Command := do
  match rest.dropWhile (· ≠ "FROM") with
  | "FROM" :: table :: "WHERE" :: "id" :: "=" :: key =>
    let kind ← kind? table
    return .select kind (← operand? key) (← columns? kind (rest.takeWhile (· ≠ "FROM")))
  | _ => none

/-- The command that the words write. -/
def ofWords? : List String → Option Command
  | "INSERT" :: "INTO" :: table :: "(" :: rest => do insert? (← kind? table) rest
  | "UPDATE" :: table :: "SET" :: rest => do update? (← kind? table) rest
  | "SELECT" :: rest => some ((select? rest).getD .query)
  | _ => none

/-- The command that the characters write, if they are words, spaces and signs of commands. -/
def ofChars? (cs : List Char) : Option Command :=
  if cs.all fun c => goesOn c || [' ', ',', '(', ')', '=', '<', '>'].contains c then
    ofWords? (words cs)
  else none

/-- The command that a text writes. -/
def ofText? (text : String) : Option Command := ofChars? text.toList

theorem ofText?_eq {text first second third : String} {cs ds es : List Char}
    (hText : text = first ++ second ++ third) (hFirst : first = String.ofList cs)
    (hSecond : second = String.ofList ds) (hThird : third = String.ofList es) :
    ofText? text = ofChars? (cs ++ ds ++ es) := by
  rw [ofText?, hText, String.toList_append, String.toList_append, hFirst, hSecond, hThird,
    String.toList_ofList, String.toList_ofList, String.toList_ofList]

/-! ## The texts of the tables -/

theorem columnList_campaign :
    Kind.campaign.columnList = "id, name, ks_name, status, create_date, last_updated" := by
  decide +kernel

theorem columnList_adGroup :
    Kind.adGroup.columnList = "id, campaign_id, name, status, create_date, last_updated" := by
  decide +kernel

theorem ofText?_selectById (kind : Kind) (id : Int) :
    ofText? (kind.selectById id).sql = some (.select kind (.param 1) kind.columns) := by
  cases kind with
  | campaign =>
    have hText : (Kind.campaign.selectById id).sql = "SELECT " ++
        "id, name, ks_name, status, create_date, last_updated" ++
          " FROM campaign WHERE id = $1" := by
      rw [Kind.selectById, columnList_campaign]
      dsimp only
      decide +kernel
    rw [ofText?_eq hText rfl rfl rfl]
    decide +kernel
  | adGroup =>
    have hText : (Kind.adGroup.selectById id).sql = "SELECT " ++
        "id, campaign_id, name, status, create_date, last_updated" ++
          " FROM ad_group WHERE id = $1" := by
      rw [Kind.selectById, columnList_adGroup]
      dsimp only
      decide +kernel
    rw [ofText?_eq hText rfl rfl rfl]
    decide +kernel

theorem ofText?_markDeleted (kind : Kind) (id : Int) :
    ofText? (kind.markDeleted id).sql = some (.update kind
      [(kind.statusColumn, .param 1), (kind.updatedColumn, .now)] (.param 2) kind.columns) := by
  cases kind with
  | campaign =>
    have hText : (Kind.campaign.markDeleted id).sql = "UPDATE campaign SET status = $1, " ++
        "last_updated = now() WHERE id = $2 RETURNING " ++
          "id, name, ks_name, status, create_date, last_updated" := by
      rw [Kind.markDeleted, columnList_campaign]
      dsimp only
      decide +kernel
    rw [ofText?_eq hText rfl rfl rfl]
    decide +kernel
  | adGroup =>
    have hText : (Kind.adGroup.markDeleted id).sql = "UPDATE ad_group SET status = $1, " ++
        "last_updated = now() WHERE id = $2 RETURNING " ++
          "id, campaign_id, name, status, create_date, last_updated" := by
      rw [Kind.markDeleted, columnList_adGroup]
      dsimp only
      decide +kernel
    rw [ofText?_eq hText rfl rfl rfl]
    decide +kernel

theorem ofText?_insertCampaign :
    ofText? ("INSERT INTO campaign (name, ks_name, status) VALUES ($1, $2, $3) RETURNING " ++
        Kind.campaign.columnList) =
      some (.insert .campaign [.campaignName, .campaignKsName, .campaignStatus]
        [.param 1, .param 2, .param 3] Kind.campaign.columns) := by
  have hText : "INSERT INTO campaign (name, ks_name, status) VALUES ($1, $2, $3) RETURNING " ++
      Kind.campaign.columnList = "INSERT INTO campaign (name, ks_name, status) " ++
        "VALUES ($1, $2, $3) RETURNING " ++
          "id, name, ks_name, status, create_date, last_updated" := by
    rw [columnList_campaign]
    decide +kernel
  rw [ofText?_eq hText rfl rfl rfl]
  decide +kernel

theorem ofText?_insertAdGroup :
    ofText? ("INSERT INTO ad_group (campaign_id, name, status) VALUES ($1, $2, $3) RETURNING " ++
        Kind.adGroup.columnList) =
      some (.insert .adGroup [.adGroupCampaignId, .adGroupName, .adGroupStatus]
        [.param 1, .param 2, .param 3] Kind.adGroup.columns) := by
  have hText : "INSERT INTO ad_group (campaign_id, name, status) VALUES ($1, $2, $3) RETURNING " ++
      Kind.adGroup.columnList = "INSERT INTO ad_group (campaign_id, name, status) " ++
        "VALUES ($1, $2, $3) RETURNING " ++
          "id, campaign_id, name, status, create_date, last_updated" := by
    rw [columnList_adGroup]
    decide +kernel
  rw [ofText?_eq hText rfl rfl rfl]
  decide +kernel

theorem ofText?_updateCampaign :
    ofText? ("UPDATE campaign SET name = $1, ks_name = $2, status = $3, " ++
        "last_updated = now() WHERE id = $4 RETURNING " ++ Kind.campaign.columnList) =
      some (.update .campaign [(.campaignName, .param 1), (.campaignKsName, .param 2),
        (.campaignStatus, .param 3), (.campaignLastUpdated, .now)] (.param 4)
        Kind.campaign.columns) := by
  rw [columnList_campaign, ofText?_eq rfl rfl rfl rfl]
  decide +kernel

theorem ofText?_updateAdGroup :
    ofText? ("UPDATE ad_group SET name = $1, status = $2, last_updated = now() " ++
        "WHERE id = $3 RETURNING " ++ Kind.adGroup.columnList) =
      some (.update .adGroup [(.adGroupName, .param 1), (.adGroupStatus, .param 2),
        (.adGroupLastUpdated, .now)] (.param 3) Kind.adGroup.columns) := by
  rw [columnList_adGroup, ofText?_eq rfl rfl rfl rfl]
  decide +kernel

theorem ofText?_selectLive (ksName : String) :
    ofText? (AdGroupTable.selectLive ksName).sql = some .query := by
  have hText : (AdGroupTable.selectLive ksName).sql =
      "SELECT ag.id, ag.campaign_id, ag.name, ag.status, ag.create_date, ag.last_updated " ++
        "FROM ad_group ag INNER JOIN campaign c ON ag.campaign_id = c.id " ++
          "WHERE c.ks_name = $1 AND c.status <> $2 AND ag.status <> $2 ORDER BY ag.id" := rfl
  rw [ofText?_eq hText rfl rfl rfl]
  decide +kernel

theorem ofText?_selectAll :
    ofText? ("SELECT " ++ Kind.campaign.columnList ++
        " FROM campaign WHERE id = ANY($1) ORDER BY id") = some .query := by
  rw [columnList_campaign, ofText?_eq rfl rfl rfl rfl]
  decide +kernel

end Command

end Sql

end CampaignFetch

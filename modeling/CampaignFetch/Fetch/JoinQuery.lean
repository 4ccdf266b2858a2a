import CampaignFetch.Database.Statement
import CampaignFetch.Fetch.Restriction

/-!
# Join queries

One join of the two tables: which kind is primary, whether primary rows survive without a related
one, the columns to give and the condition on the rows.

`JoinQuery.statement` is the query as a statement of the database. Rows come ordered by the primary
identity and then by the related one.
-/

namespace CampaignFetch

/-- The two ways to join. -/
inductive Join where
  /-- Primary rows survive without a related row. -/
  | left
  /-- Only rows with both sides are given. -/
  | inner
  deriving DecidableEq, Repr

/-- The words of a join in a statement. -/
def Join.words : Join → String
  | .left => "LEFT JOIN"
  | .inner => "INNER JOIN"

structure JoinQuery where
  primary : Kind
  join : Join
  projection : List Column
  condition : Option Condition
  deriving Repr

namespace JoinQuery

/-- The columns, each once, in order of their first occurrence. -/
def distinct (columns : List Column) : List Column :=
  columns.foldl (fun seen c => if seen.contains c then seen else seen ++ [c]) []

/-- Campaigns are kept without ad groups, ad groups are not kept without their campaign. -/
def joinFor : Kind → Join
  | .campaign => .left
  | .adGroup => .inner

/-- The query for columns of both kinds under a condition on either. -/
def of (primary : Kind) (own related : List Column) (restriction : Restriction) : JoinQuery where
  primary
  join := joinFor primary
  projection := distinct (own ++ related)
  condition := Condition.allOf (restriction.primary.toList ++ restriction.related.toList)

/-- The kind on the other side of the join. -/
def related (q : JoinQuery) : Kind := q.primary.other

def sql (q : JoinQuery) : String :=
  let columns := q.projection.map fun c => c.qualified ++ " AS \"" ++ c.label ++ "\""
  let whereClause := match q.condition with
    | some c => " WHERE " ++ c.render 0
    | none => ""
  "SELECT " ++ ", ".intercalate columns ++ " FROM \"" ++ q.primary.table ++ "\" " ++
    q.join.words ++ " \"" ++ q.related.table ++ "\" ON " ++ Column.adGroupCampaignId.qualified ++
    " = " ++ Column.campaignId.qualified ++ whereClause ++ " ORDER BY " ++
    q.primary.identity.qualified ++ " ASC, " ++ q.related.identity.qualified ++ " ASC"

def values (q : JoinQuery) : List String := (q.condition.map Condition.values).getD []

def statement (q : JoinQuery) : Statement := ⟨q.sql, q.values.map .text⟩

/-- Whether a row satisfies the condition of the query. -/
def accepts (q : JoinQuery) (row : Row) : Bool := q.condition.all (Condition.holds row)

end JoinQuery

end CampaignFetch

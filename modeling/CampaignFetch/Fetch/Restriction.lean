import CampaignFetch.Fetch.Condition
import CampaignFetch.Fetch.Selection

/-!
# Filters as conditions

The filters of a request restrict the rows of a join. Each filter on a known field becomes one
condition on its column, in the half that belongs to the column's table; filters on unknown fields
restrict nothing. All filters of a half have to hold.

A filter with an unsupported operator refuses the whole list, whatever its field.
-/

namespace CampaignFetch

namespace Filter

/-- The condition of a filter on a column. A filter without values holds nowhere. -/
def condition? (f : Filter) (column : Column) : Option Condition :=
  match f.operator with
  | .equals =>
    some ((Condition.anyOf (f.values.map (Condition.equals column))).getD (.isIn column []))
  | .isIn => some (.isIn column f.values)
  | .unsupported _ => none

/-- The condition that a filter sets in the half of a kind. -/
def conditionFor? (primary target : Kind) (f : Filter) : Option Condition :=
  let (kind, name) := scope primary f.field
  if kind = target then (kind.column? name).bind f.condition? else none

/-- The text of the operator, if it is not supported. -/
def unsupported? (f : Filter) : Option String :=
  match f.operator with
  | .unsupported text => some text
  | _ => none

end Filter

/-- The conditions on the two tables. -/
structure Restriction where
  primary : Option Condition
  related : Option Condition
  deriving Repr

namespace Restriction

/-- Refuses a list of filters with an unsupported operator; the first one is named. -/
def checkOperators (filters : List Filter) : Except FetchFault Unit :=
  match filters.findSome? Filter.unsupported? with
  | some operator => .error (.unsupportedOperator operator)
  | none => .ok ()

/-- The condition that the filters set on the table of a kind. -/
def half (primary target : Kind) (filters : List Filter) :
    Except FetchFault (Option Condition) := do
  checkOperators filters
  return Condition.allOf (filters.filterMap (Filter.conditionFor? primary target))

/-- The conditions that the filters set on both tables. -/
def of (primary : Kind) (filters : List Filter) : Except FetchFault Restriction := do
  let own ← half primary primary filters
  let related ← half primary primary.other filters
  return { primary := own, related }

end Restriction

end CampaignFetch

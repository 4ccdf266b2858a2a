import CampaignFetch.Fetch.Row
import CampaignFetch.Text.Lowercase

/-!
# Conditions on rows

A condition compares the text form of columns with given texts. It has two readings:

* `Condition.holds` evaluates it on a row; a column that is null satisfies no comparison;
* `Condition.render` writes it as a clause with numbered placeholders, whose values in order are
  `Condition.values`.

Every member of a group stands in parentheses, so the clause has one reading whatever the nesting.
-/

namespace CampaignFetch

/-- A condition on the columns of a row. -/
inductive Condition where
  /-- The lowercase texts are equal. -/
  | equals (column : Column) (value : String)
  /-- The text is one of the values. -/
  | isIn (column : Column) (values : List String)
  | all (members : List Condition)
  | any (members : List Condition)
  deriving Repr

instance : Inhabited Condition := ⟨.all []⟩

namespace Condition

/-- The conjunction of conditions: none of no condition, the condition itself of a single one. -/
def allOf : List Condition → Option Condition
  | [] => none
  | [c] => some c
  | cs => some (.all cs)

/-- The disjunction of conditions, collapsed in the same way. -/
def anyOf : List Condition → Option Condition
  | [] => none
  | [c] => some c
  | cs => some (.any cs)

/-! ## Evaluation -/

/-- Whether two texts are equal in lowercase. -/
def sameLowercase (a b : String) : Bool := Text.lowercase a = Text.lowercase b

mutual

def holds (row : Row) : Condition → Bool
  | .equals column value => (row.text? column).any fun text => sameLowercase text value
  | .isIn column values => (row.text? column).any fun text => values.contains text
  | .all members => allHold row members
  | .any members => anyHolds row members

def allHold (row : Row) : List Condition → Bool
  | [] => true
  | c :: cs => holds row c && allHold row cs

def anyHolds (row : Row) : List Condition → Bool
  | [] => false
  | c :: cs => holds row c || anyHolds row cs

end

/-! ## Clauses -/

mutual

/-- The values that the placeholders of the clause stand for, in order. -/
def values : Condition → List String
  | .equals _ value => [value]
  | .isIn _ values => values
  | .all members => valuesOfAll members
  | .any members => valuesOfAll members

/-- The values of several conditions, in order. -/
def valuesOfAll : List Condition → List String
  | [] => []
  | c :: cs => values c ++ valuesOfAll cs

end

/-- The pattern that gives timestamps in a clause the text form that they have in rows. -/
def timestampPattern : String := "YYYY-MM-DD\"T\"HH24:MI:SS.US"

/-- The text form of a column in a clause. -/
def textExpression (c : Column) : String :=
  match c.type with
  | .text => c.qualified
  | .integer => c.qualified ++ "::text"
  | .timestamp => "to_char(" ++ c.qualified ++ ", '" ++ timestampPattern ++ "')"

/-- The placeholder of the value with a number. -/
def placeholder (number : Nat) : String := "$" ++ Text.ofInt number

/-- So many placeholders with commas between them, numbered after `bound`. -/
def placeholders (bound count : Nat) : String :=
  ", ".intercalate ((List.range count).map fun i => placeholder (bound + i + 1))

mutual

/-- The clause of a condition, when the first `bound` values belong to clauses before it. -/
def render (bound : Nat) : Condition → String
  | .equals column _ =>
    "lower(" ++ textExpression column ++ ") = lower(" ++ placeholder (bound + 1) ++ ")"
  | .isIn column values =>
    if values.isEmpty then "1 = 0"
    else textExpression column ++ " IN (" ++ placeholders bound values.length ++ ")"
  | .all members => " AND ".intercalate (renderMembers bound members)
  | .any members => " OR ".intercalate (renderMembers bound members)

/-- The clauses of the members of a group, each in parentheses. -/
def renderMembers (bound : Nat) : List Condition → List String
  | [] => []
  | c :: cs => ("(" ++ render bound c ++ ")") :: renderMembers (bound + (values c).length) cs

end

end Condition

end CampaignFetch

import CampaignFetch.Database.Fault

/-!
# Statements and replies

What goes to a database and what comes back: a statement is a text with numbered placeholders and
their values, a reply is a list of rows of cells, or an error of the server.
-/

namespace CampaignFetch

/-- A value for a placeholder. -/
inductive Param where
  | null
  | int (value : Int)
  | text (value : String)
  | ints (values : List Int)
  deriving DecidableEq, Repr

/-- A statement with the values of its placeholders `$1`, `$2`, … -/
structure Statement where
  sql : String
  params : List Param
  deriving DecidableEq, Repr

/-- One value of a row that comes back. A timestamp comes as its text. -/
inductive Cell where
  | null
  | int (value : Int)
  | text (value : String)
  deriving DecidableEq, Repr

/-- The cells of a row in the order of the statement's columns. -/
abbrev Cells := List Cell

/-- The rows that a statement gives, or why it failed. -/
abbrev Reply := Except DatabaseFault (List Cells)

end CampaignFetch

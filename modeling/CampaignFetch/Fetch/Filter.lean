import CampaignFetch.Json.Record
import CampaignFetch.Text.Blank

/-!
# Filters

A filter names a field, an operator and the values to compare with. Two operators are supported; any
other text is kept as it came, so that the refusal can quote it.

`Filter.parseList` reads the list of filters that a request carries as a text; a blank text is an
empty list.
-/

namespace CampaignFetch

inductive Operator where
  /-- Equal to one of the values without regard to case. -/
  | equals
  /-- Equal to one of the values. -/
  | isIn
  | unsupported (text : String)
  deriving DecidableEq, Repr

namespace Operator

def text : Operator → String
  | .equals => "EQUALS"
  | .isIn => "IN"
  | .unsupported text => text

/-- The operator that a text names. -/
def ofText (s : String) : Operator :=
  if s = "EQUALS" then .equals else if s = "IN" then .isIn else .unsupported s

@[simp] theorem text_ofText (s : String) : (ofText s).text = s := by
  unfold ofText
  split
  · simp [text, *]
  · split <;> simp [text, *]

def read : Json.Reader Operator := fun bs =>
  (Json.readText bs).map fun (s, rest) => (ofText s, rest)

end Operator

/-- A condition that a request sets on a field. -/
structure Filter where
  field : String
  operator : Operator
  values : List String
  deriving DecidableEq, Repr

namespace Filter

def toJson (f : Filter) : Json :=
  .object [("field", .string f.field), ("operator", .string f.operator.text),
    ("values", .array (f.values.map .string))]

def fields : List (Json.Field Filter) := [
  .of "field" .required Json.readText fun x f => { f with field := x },
  .of "operator" .required Operator.read fun x f => { f with operator := x },
  .of "values" .required (Json.readList Json.readText) fun x f => { f with values := x }]

def read : Json.Reader Filter := Json.readRecord "QueryFilter" fields ⟨"", .equals, []⟩

/-- The filters that the text lists. -/
def parseList (s : String) : Except Json.Fault (List Filter) :=
  if Text.isBlankText s then .ok []
  else Json.readWhole (Json.readList read) (Text.encode s)

end Filter

end CampaignFetch

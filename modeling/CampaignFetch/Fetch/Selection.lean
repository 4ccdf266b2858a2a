import CampaignFetch.Fetch.Column
import CampaignFetch.Fetch.Request

/-!
# Scoped names

A name in a request belongs to one of the two kinds. Seen from the primary kind, a name that begins
with the related kind's word and a point belongs to the related kind, every other name to the
primary one, which may be written with its own word too.

`Selection.of` splits the fields of a request between the two kinds.
-/

namespace CampaignFetch

/-- The name without the kind's word and the point in front, if it begins so. -/
def Kind.unscoped? (k : Kind) (name : String) : Option String :=
  let lead := k.scopeWord.toList ++ ['.']
  if lead.isPrefixOf name.toList then some (String.ofList (name.toList.drop lead.length))
  else none

/-- The kind that a name belongs to, and the name within that kind. -/
def scope (primary : Kind) (name : String) : Kind × String :=
  match primary.other.unscoped? name with
  | some rest => (primary.other, rest)
  | none => (primary, (primary.unscoped? name).getD name)

/-- The names that are asked of each of the two kinds. -/
structure Selection where
  primary : List String
  related : List String
  deriving DecidableEq, Repr

/-- The names with one more at the end, unless it is there already. -/
def pushNew (names : List String) (name : String) : List String :=
  if names.contains name then names else names ++ [name]

namespace Selection

/-- Adds the name in a field of a request, if it belongs to the kind. -/
def addName (primary kind : Kind) (names : List String) (field : String) : List String :=
  let (k, name) := scope primary field
  if k = kind then pushNew names name else names

/-- The names that `fields` ask of a kind, each once, in order. -/
def namesOf (primary kind : Kind) (fields : List String) : List String :=
  fields.foldl (addName primary kind) []

/-- Splits names between the kinds. Both get the identity; when no name belongs to the related kind
and `allWhenEmpty` is set, that kind gets all its names. -/
def of (primary : Kind) (allWhenEmpty : Bool) (fields : List String) : Selection :=
  let own := namesOf primary primary fields
  let related := namesOf primary primary.other fields
  let related := if related.isEmpty && allWhenEmpty then primary.other.fieldNames else related
  { primary := pushNew own identityField, related := pushNew related identityField }

end Selection

end CampaignFetch

import CampaignFetch.Database.Tables
import CampaignFetch.Text.Blank

/-!
# What services refuse

A service checks what it is given before it asks the database, and says what is missing afterwards.
-/

namespace CampaignFetch

/-- Why a service did not do what it was asked for. -/
inductive ServiceFault where
  /-- There is no entity with this identity. -/
  | notFound (entity : String) (id : Int)
  /-- A field refers to an entity that does not exist. -/
  | missingReference (field : String)
  /-- The value of a field is not allowed. -/
  | invalidField (field : String) (message : String)
  | database (cause : DatabaseFault)
  deriving DecidableEq, Repr

def ServiceFault.message : ServiceFault → String
  | .notFound entity id => entity ++ " " ++ Text.ofInt id ++ " not found"
  | .missingReference field => "Referenced record does not exist: " ++ field
  | .invalidField field message => "Invalid " ++ field ++ ": " ++ message
  | .database cause => "Database error: " ++ cause.message

/-- What a service does: a program that can fail with a service fault. -/
abbrev Service (α : Type) := ExceptT ServiceFault Program α

namespace Service

variable {α : Type}

/-- Work on the tables as a part of a service. -/
def ofAccess (a : Access α) : Service α := ExceptT.adapt .database a

/-- The entity that was found, of the given kind and identity. -/
def found (kind : Kind) (id : Int) (a : Access (Option α)) : Service α := do
  match ← ofAccess a with
  | some entity => return entity
  | none => throw (.notFound kind.name id)

/-- Refuses a blank name. -/
def requireName (name : String) : Service Unit :=
  if Text.isBlankText name then throw (.invalidField "name" "must not be blank") else return ()

end Service

end CampaignFetch

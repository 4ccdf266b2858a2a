import CampaignFetch.Fetch.Request
import CampaignFetch.Service.Fault
import CampaignFetch.Token.Claims

/-!
# Problems

What a client is told when a request cannot be served: a status, a code, a message and, where single
fields are at fault, what is wrong with each.

Faults of requests and services are told as they are. Faults of the database are told in general
words, which name neither settings nor statements nor what the server said.
-/

namespace CampaignFetch

/-- What a client is told. -/
inductive Problem where
  | badRequest (message : String)
  | validation (message : String) (fieldErrors : Option (List (String × String)))
  | unauthorized (message : String)
  | notFound (message : String)
  | internal (message : String)
  | unavailable (message : String)
  deriving DecidableEq, Repr

namespace Problem

def status : Problem → Nat
  | badRequest _ => 400
  | validation .. => 400
  | unauthorized _ => 401
  | notFound _ => 404
  | internal _ => 500
  | unavailable _ => 503

/-- The code by which clients tell problems apart. -/
def code : Problem → String
  | badRequest _ => "BAD_REQUEST"
  | validation .. => "VALIDATION_ERROR"
  | unauthorized _ => "UNAUTHORIZED"
  | notFound _ => "NOT_FOUND"
  | internal _ => "INTERNAL_SERVER_ERROR"
  | unavailable _ => "SERVICE_UNAVAILABLE"

def message : Problem → String
  | badRequest message | validation message _ | unauthorized message | notFound message
  | internal message | unavailable message => message

/-- What is wrong with single fields, if that is told. -/
def fieldErrors : Problem → Option (List (String × String))
  | validation _ errors => errors
  | _ => none

def toJson (p : Problem) : Json :=
  .object ([("success", .bool false), ("error", .bool true), ("message", .string p.message),
    ("code", .string p.code)] ++
    match p.fieldErrors with
    | some errors => [("field_errors", .object (errors.map fun (f, detail) => (f, .string detail)))]
    | none => [])

/-- The problem with a single field. -/
def field (message : String) (name : String) (detail : String) : Problem :=
  .validation message (some [(name, detail)])

/-! ## From faults -/

/-- The problem that a fault of the database is told as. -/
def ofDatabase : DatabaseFault → Problem
  | .configMissing _ | .poolTimedOut => .unavailable "Database temporarily unavailable"
  | .query _ => .internal "An error occurred while processing your request"
  | .migration _ => .unavailable "Service is being updated, please try again later"
  | .server _ | .rowNotFound | .connection | .columnDecode => .internal "Database error occurred"

/-- The problem that a fault of a fetch is told as. -/
def ofFetch : FetchFault → Problem
  | .unsupportedOperator operator => .badRequest ("Unsupported filter operator: " ++ operator)
  | .invalidFilters message => .field "Invalid filters" "filters" message
  | .invalidLimit message => .field "Invalid limit" "limit" message
  | .execution _ => .internal "An error occurred while fetching records"

/-- The problem that a fault of a service is told as. -/
def ofService : ServiceFault → Problem
  | .notFound entity id => .notFound (ServiceFault.notFound entity id).message
  | .missingReference field =>
    .field "Referenced record does not exist" field "No record with this id"
  | .invalidField field message => .field "Invalid field value" field message
  | .database cause => ofDatabase cause

/-- The problem that a fault of a token is told as. -/
def ofToken : TokenFault → Problem
  | .secretMissing => .internal "Authentication is misconfigured"
  | fault => .unauthorized fault.message

end Problem

end CampaignFetch

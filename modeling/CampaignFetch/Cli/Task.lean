import CampaignFetch.Cli.Report
import CampaignFetch.Database.Server
import CampaignFetch.Fetch.Engine
import CampaignFetch.Token.Signed

/-!
# Performing tasks

A task reports or fails. A token needs no database. The other tasks connect to it first, and a fetch
looks at its arguments only after that.
-/

namespace CampaignFetch

/-- What lies behind the fault, from the nearest to the farthest. -/
def DatabaseFault.causes : DatabaseFault → List String
  | .server message => [message]
  | .migration message => [message]
  | _ => []

/-- What lies behind the fault, from the nearest to the farthest. -/
def FetchFault.causes : FetchFault → List String
  | .invalidFilters message => [message]
  | .execution cause => cause.message :: cause.causes
  | _ => []

namespace Cli

/-- Why a task or the start of the server failed. -/
inductive Failure where
  | token (fault : TokenFault)
  | database (fault : DatabaseFault)
  | fetch (fault : FetchFault)
  /-- Callers need a token but there is no secret. -/
  | secretMissing
  deriving DecidableEq, Repr

namespace Failure

def message : Failure → String
  | .token fault => fault.message
  | .database fault => fault.message
  | .fetch fault => fault.message
  | .secretMissing => "security.enable_auth is set but JWT_SECRET is empty"

/-- What lies behind the failure, from the nearest to the farthest. -/
def causes : Failure → List String
  | .database fault => fault.causes
  | .fetch fault => fault.causes
  | _ => []

end Failure

/-- Where tasks are performed. -/
structure Surroundings where
  environment : Variables
  /-- The time, in seconds since the beginning of 1970. -/
  now : Int
  server : Server

/-- What a task does: it reports or fails. -/
abbrev Performance (α : Type) := ExceptT Failure Program α

namespace Performance

/-- A step that asks no database. -/
def step {ε α : Type} (wrap : ε → Failure) (e : Except ε α) : Performance α :=
  ExceptT.mk (.done (e.mapError wrap))

end Performance

namespace Surroundings

def settings (s : Surroundings) : AppSettings := .ofVariables s.environment

def connect (s : Surroundings) : Performance Pool :=
  .step .database (s.server.connect s.settings.database)

def issue (s : Surroundings) (subject : String) (hours : Option Nat) :
    Except TokenFault Report := do
  let hours := hours.getD s.settings.security.expiryHours
  let claims ← Claims.issue s.now subject hours
  return .token (← claims.sign s.settings.security.secret) subject hours

end Surroundings

def Task.perform (s : Surroundings) : Task → Performance Report
  | .token subject hours => .step .token (s.issue subject hours)
  | .migrate => do
    let _ ← s.connect
    .step .database s.server.migration
    return .migrated
  | .fetch kind fields filters limit => do
    let _ ← s.connect
    let request ← .step .fetch (Request.ofArguments? fields filters limit)
    return .fetched (← ExceptT.adapt .fetch (fetchDocuments s.settings.fetch kind request))

end Cli

end CampaignFetch

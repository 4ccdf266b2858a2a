import CampaignFetch.Fetch.Settings
import CampaignFetch.Text.Ascii
import CampaignFetch.Text.Blank

/-!
# Settings of the application

The settings are those of the stage in which the application runs, except where a variable of the
environment says otherwise. A variable whose text is no value of the setting changes nothing.

* `AppSettings.preset` gives the settings of a stage.
* `AppSettings.ofVariables` gives the settings under the variables of an environment.
-/

namespace CampaignFetch

def applicationName : String := "campaign-api-rust"

def applicationVersion : String := "0.1.0"

/-- The variables of an environment. -/
abbrev Variables := String → Option String

inductive Stage where
  | development
  | staging
  | production
  deriving DecidableEq, Repr

namespace Stage

def name : Stage → String
  | .development => "Development"
  | .staging => "Staging"
  | .production => "Production"

/-- The stage that a text names; without a known one it is development. -/
def ofText (text : Option String) : Stage :=
  match text with
  | some "production" | some "prod" => .production
  | some "staging" | some "stage" => .staging
  | _ => .development

end Stage

/-- How the database is used. -/
structure DatabaseSettings where
  /-- The greatest number of connections in the pool. -/
  maxConnections : Nat
  /-- The number of seconds to wait for a connection. -/
  connectionTimeout : Nat
  /-- Whether the server brings the schema up to date when it starts. -/
  runMigrations : Bool
  deriving DecidableEq, Repr

/-- How callers are authenticated. -/
structure SecuritySettings where
  /-- Whether callers need a token. -/
  enableAuth : Bool
  /-- The secret that signs tokens; the empty text is none. -/
  secret : String
  /-- The lifetime of a token in hours. -/
  expiryHours : Nat
  deriving DecidableEq, Repr

structure AppSettings where
  stage : Stage
  fetch : FetchSettings
  database : DatabaseSettings
  security : SecuritySettings
  deriving DecidableEq, Repr

/-! ## Documents -/

def DatabaseSettings.toJson (s : DatabaseSettings) : Json :=
  .object [("max_connections", .int s.maxConnections),
    ("connection_timeout", .int s.connectionTimeout), ("run_migrations", .bool s.runMigrations)]

def SecuritySettings.toJson (s : SecuritySettings) : Json :=
  .object [("enable_auth", .bool s.enableAuth), ("jwt_secret", .string s.secret),
    ("jwt_expiry_hours", .int s.expiryHours)]

def AppSettings.toJson (s : AppSettings) : Json :=
  .object [("environment", .string s.stage.name), ("fetch", s.fetch.toJson),
    ("database", s.database.toJson), ("security", s.security.toJson)]

/-! ## Presets -/

/-- Settings of the engine with the usual directions. -/
def FetchSettings.capped (cap : Int) (debugLogging : Bool) : FetchSettings :=
  ⟨some cap, debugLogging, .campaignDefault, .adGroupDefault⟩

/-- The settings of a stage when no variable is set. -/
def AppSettings.preset : Stage → AppSettings
  | .development => ⟨.development, .capped 1000 true, ⟨10, 30, true⟩, ⟨false, "", 168⟩⟩
  | .staging => ⟨.staging, .capped 500 false, ⟨20, 10, true⟩, ⟨true, "", 24⟩⟩
  | .production => ⟨.production, .capped 100 false, ⟨50, 5, false⟩, ⟨true, "", 4⟩⟩

/-! ## Variables -/

namespace Variables

variable {α : Type}

/-- The value of a variable, or `current` if it is not set or is no value. -/
def override (env : Variables) (name : String) (parse : String → Option α) (current : α) : α :=
  ((env name).bind parse).getD current

def bool (env : Variables) (name : String) (current : Bool) : Bool :=
  env.override name Text.bool? current

/-- A natural number of so many bits. -/
def nat (env : Variables) (name : String) (bits : Nat) (current : Nat) : Nat :=
  env.override name (Text.nat? bits) current

/-- A cap: an integer, or `none` in any case for no cap. -/
def cap? (text : String) : Option (Option Int) :=
  let text := Text.trim text
  if Ascii.lowercase text = "none" then some none else (Text.int64? text).map some

end Variables

/-- Settings of a direction under the variables whose names begin with `scope`. -/
def DirectionSettings.under (env : Variables) (scope : String) (d : DirectionSettings) :
    DirectionSettings where
  allFieldsWhenEmpty := env.bool (scope ++ "_ALL_FIELDS_WHEN_EMPTY") d.allFieldsWhenEmpty
  keepRowsWithoutRelated :=
    env.bool (scope ++ "_KEEP_ROWS_WITHOUT_RELATED") d.keepRowsWithoutRelated

def FetchSettings.under (env : Variables) (s : FetchSettings) : FetchSettings where
  maxLimit := env.override "FETCH_MAX_LIMIT" Variables.cap? s.maxLimit
  debugLogging := env.bool "FETCH_DEBUG_LOGGING" s.debugLogging
  campaign := s.campaign.under env "FETCH_CAMPAIGN"
  adGroup := s.adGroup.under env "FETCH_AD_GROUP"

def DatabaseSettings.under (env : Variables) (s : DatabaseSettings) : DatabaseSettings where
  maxConnections := env.nat "DATABASE_MAX_CONNECTIONS" 32 s.maxConnections
  connectionTimeout := env.nat "DATABASE_CONNECTION_TIMEOUT" 64 s.connectionTimeout
  runMigrations := env.bool "DATABASE_RUN_MIGRATIONS" s.runMigrations

def SecuritySettings.under (env : Variables) (s : SecuritySettings) : SecuritySettings where
  enableAuth := env.bool "SECURITY_ENABLE_AUTH" s.enableAuth
  secret := env.override "JWT_SECRET" some s.secret
  expiryHours := env.nat "SECURITY_JWT_EXPIRY_HOURS" 64 s.expiryHours

namespace AppSettings

def under (env : Variables) (s : AppSettings) : AppSettings where
  stage := s.stage
  fetch := s.fetch.under env
  database := s.database.under env
  security := s.security.under env

def ofVariables (env : Variables) : AppSettings :=
  (preset (.ofText (env "APP_ENV"))).under env

/-- Whether callers need a token that nobody can sign. -/
def lacksSecret (s : AppSettings) : Bool := s.security.enableAuth && s.security.secret.isEmpty

end AppSettings

end CampaignFetch

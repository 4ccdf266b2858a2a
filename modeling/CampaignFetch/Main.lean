import CampaignFetch.Cli.Ending
import Std.Time.DateTime.Timestamp

/-!
# The operators' program

Reads the arguments, the environment and the clock, runs `Cli.operate` and leaves its outcome. There
is no connector for databases here: a configured one counts as unreachable.
-/

namespace CampaignFetch.Cli

/-- The variables that the program looks at. -/
def variableNames : List String := [
  "APP_ENV", "FETCH_MAX_LIMIT", "FETCH_DEBUG_LOGGING", "FETCH_CAMPAIGN_ALL_FIELDS_WHEN_EMPTY",
  "FETCH_CAMPAIGN_KEEP_ROWS_WITHOUT_RELATED", "FETCH_AD_GROUP_ALL_FIELDS_WHEN_EMPTY",
  "FETCH_AD_GROUP_KEEP_ROWS_WITHOUT_RELATED", "DATABASE_MAX_CONNECTIONS",
  "DATABASE_CONNECTION_TIMEOUT", "DATABASE_RUN_MIGRATIONS", "SECURITY_ENABLE_AUTH", "JWT_SECRET",
  "SECURITY_JWT_EXPIRY_HOURS", "CLI_VERBOSE", Server.addressVariable]

/-- The variables of the environment that the program looks at. -/
def readVariables : IO Variables := do
  let entries ← variableNames.mapM fun name => return (name, ← IO.getEnv name)
  return fun name => (entries.lookup name).join

def readSurroundings : IO Surroundings := do
  let environment ← readVariables
  let now := (← Std.Time.Timestamp.now).toSecondsSinceUnixEpoch.val
  let server := Server.unreachable (environment Server.addressVariable).isSome .connection
  return ⟨environment, now, server⟩

end CampaignFetch.Cli

open CampaignFetch CampaignFetch.Cli in
def main (args : List String) : IO UInt32 := do
  let surroundings ← readSurroundings
  let (ending, _) := (operate surroundings args).run .scripted (.start .down)
  let outcome := ending.outcome surroundings.isVerbose
  IO.print outcome.output
  IO.eprint outcome.complaint
  return outcome.exitCode.toUInt32

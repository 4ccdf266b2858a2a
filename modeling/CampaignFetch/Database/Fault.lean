/-!
# Database faults

The ways in which work on the database fails. Only the first four carry a text of their own; a text
that the server sent is shown to operators, never to clients.
-/

namespace CampaignFetch

/-- Why work on the database failed. -/
inductive DatabaseFault where
  /-- A setting is missing. -/
  | configMissing (setting : String)
  | query (message : String)
  /-- The schema could not be brought up to date. -/
  | migration (message : String)
  /-- The server answered a statement with an error. -/
  | server (message : String)
  /-- A statement that has to give a row gave none. -/
  | rowNotFound
  /-- No connection became free in time. -/
  | poolTimedOut
  /-- The connection broke or could not be made. -/
  | connection
  /-- A column holds what the model has no place for. -/
  | columnDecode
  deriving DecidableEq, Repr

namespace DatabaseFault

def message : DatabaseFault → String
  | .configMissing setting => "Missing configuration: " ++ setting
  | .query message => "Query error: " ++ message
  | .migration message => "Migration error: " ++ message
  | .server message => "error returned from database: " ++ message
  | .rowNotFound => "no rows returned by a query that expected to return at least one row"
  | .poolTimedOut => "pool timed out while waiting for an open connection"
  | .connection => "error communicating with database: connection refused"
  | .columnDecode => "error occurred while decoding a column"

end DatabaseFault

end CampaignFetch

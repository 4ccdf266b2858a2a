import CampaignFetch.Database.Script
import CampaignFetch.Settings

/-!
# Reaching a database

Before a database is asked anything it has to be configured and reached, and its schema may have to
be brought up to date.

* `Server` tells how either ends.
* `Server.connect` opens a pool of connections as the settings ask for it.
-/

namespace CampaignFetch

structure Pool where
  /-- The greatest number of connections. -/
  maxConnections : Nat
  /-- The number of seconds to wait for a connection. -/
  acquireTimeout : Nat
  deriving DecidableEq, Repr

/-- A database server as it is met. -/
structure Server where
  /-- Whether it is known where the server is. -/
  configured : Bool
  /-- How an attempt to connect ends. -/
  connection : Except DatabaseFault Unit
  /-- How an attempt to bring the schema up to date ends. -/
  migration : Except DatabaseFault Unit

namespace Server

/-- The variable that says where the server is. -/
def addressVariable : String := "DATABASE_URL"

/-- A server that does not answer. -/
def unreachable (configured : Bool) (fault : DatabaseFault) : Server :=
  ⟨configured, .error fault, .error fault⟩

/-- The pool of connections to a server. Its first connection is made at once, for which there has
to be room and time. -/
def connect (server : Server) (s : DatabaseSettings) : Except DatabaseFault Pool := do
  if !server.configured then throw (.configMissing addressVariable)
  if s.maxConnections = 0 || s.connectionTimeout = 0 then throw .poolTimedOut
  server.connection
  return ⟨s.maxConnections, s.connectionTimeout⟩

end Server

/-- The server of a scripted database; its schema is always brought up to date. -/
def Script.server : Script → Server
  | .replies _ => ⟨true, .ok (), .ok ()⟩
  | .down => .unreachable true .connection
  | .timeout => .unreachable true .poolTimedOut

end CampaignFetch

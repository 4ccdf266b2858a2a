import CampaignFetch.Database.Decode
import CampaignFetch.Database.Program

/-!
# Scripted databases

A database that answers from a list of replies, one for each statement, and logs the statements.
When the list is used up every statement gives no rows. It can also be down, or have no connection
to give; then a statement fails before it is sent and nothing is logged.

`Backend.scripted` sends joins as statements, `Backend.ofStore` answers them from elsewhere.
-/

namespace CampaignFetch

/-- What a scripted database does with the statements that reach it. -/
inductive Script where
  | replies (list : List Reply)
  | down
  | timeout

/-- A scripted database with the statements that were sent to it, the last one first. -/
structure ScriptedDatabase where
  script : Script
  sent : List Statement

namespace ScriptedDatabase

/-- The database before the first statement. -/
def start (script : Script) : ScriptedDatabase := ⟨script, []⟩

/-- The statements in the order in which they were sent. -/
def log (db : ScriptedDatabase) : List Statement := db.sent.reverse

def execute (s : Statement) (db : ScriptedDatabase) : Reply × ScriptedDatabase :=
  match db.script with
  | .down => (.error .connection, db)
  | .timeout => (.error .poolTimedOut, db)
  | .replies [] => (.ok [], { db with sent := s :: db.sent })
  | .replies (reply :: rest) => (reply, ⟨.replies rest, s :: db.sent⟩)

end ScriptedDatabase

/-- The rows of a join from the cells that its statement gave. -/
def JoinQuery.decode (q : JoinQuery) (reply : Reply) : JoinReply := do
  (← reply).mapM fun cells => Row.ofCells q.projection cells Row.empty

namespace Backend

/-- Answers joins by sending their statements, like all others, to the database. -/
def scripted : Backend ScriptedDatabase where
  execute := ScriptedDatabase.execute
  join q db :=
    let (reply, db) := db.execute q.statement
    (q.decode reply, db)

/-- Answers joins from a store; only the other statements go to the database. -/
def ofStore (store : JoinQuery → JoinReply) : Backend ScriptedDatabase where
  execute := ScriptedDatabase.execute
  join q db := (store q, db)

end Backend

end CampaignFetch

import CampaignFetch.Cli.Task
import CampaignFetch.Text.Split

/-!
# How a run ends

A run of the operators' program or of the server ends with what was asked for, with a failure, or
already because of its arguments. What it leaves is an exit code, its output and its complaint.

* `operate` runs the operators' program.
* `startServer` makes the checks before the server listens.
* `Ending.outcome` tells what a run leaves.
-/

namespace CampaignFetch.Cli

/-- How a run ends. -/
inductive Ending where
  | halted (command : Command) (halt : Halt)
  | failed (failure : Failure)
  | reported (format : Format) (report : Report)
  /-- The server listens. -/
  | listening (place : Listening) (pool : Pool)

structure Outcome where
  exitCode : Nat
  output : String
  complaint : String
  deriving DecidableEq, Repr

/-! ## Complaints -/

/-- The lines of a text, those after the first one set off by `margin`. -/
def setOff (margin text : String) : String :=
  ("\n" ++ margin).intercalate ((Text.pieces '\n' text.toList).map String.ofList)

/-- A number set to the right in five places, with a colon. -/
def ordinal (n : Nat) : String :=
  let digits := toString n
  String.ofList (List.replicate (5 - digits.length) ' ') ++ digits ++ ": "

/-- The causes from the one with the number `n` on. -/
def numbered (n : Nat) : List String → List String
  | [] => []
  | cause :: rest => (ordinal n ++ setOff "       " cause) :: numbered (n + 1) rest

/-- The lines that list causes; several ones are numbered. -/
def causeLines : List String → List String
  | [] => []
  | [cause] => ["", "Caused by:", "    " ++ setOff "    " cause]
  | causes => "" :: "Caused by:" :: numbered 0 causes

/-- The complaint about a failure, with its causes if they are wanted. -/
def Failure.complaint (f : Failure) (withCauses : Bool) : String :=
  Report.lines (("Error: " ++ f.message) :: if withCauses then causeLines f.causes else [])

/-! ## Outcomes -/

/-- The exit code of a run that halts: asking for help or for the version is no mistake. -/
def Halt.exitCode : Halt → Nat
  | .help | .version => 0
  | _ => 2

/-- What a run leaves. The texts of help are not part of it. -/
def Ending.outcome (withCauses : Bool) : Ending → Outcome
  | .halted command .version => ⟨0, Report.lines [command.name ++ " " ++ applicationVersion], ""⟩
  | .halted _ halt => ⟨halt.exitCode, "", ""⟩
  | .failed failure => ⟨1, "", failure.complaint withCauses⟩
  | .reported format report => ⟨0, report.render format, ""⟩
  | .listening _ _ => ⟨0, "", ""⟩

/-! ## Runs -/

/-- Whether operators want to see the causes of a failure. -/
def Surroundings.isVerbose (s : Surroundings) : Bool :=
  match s.environment "CLI_VERBOSE" with
  | some "true" | some "1" => true
  | _ => false

def operate (s : Surroundings) (args : List String) : Program Ending := do
  match Invocation.ofArguments args with
  | .error halt => return .halted operatorCommand halt
  | .ok invocation =>
    match ← (invocation.task.perform s).run with
    | .ok report => return .reported invocation.format report
    | .error failure => return .failed failure

/-- The pool with which the server starts. Callers who need a token must be able to get one. -/
def Surroundings.serverPool (s : Surroundings) : Except Failure Pool := do
  if s.settings.lacksSecret then throw .secretMissing
  let pool ← (s.server.connect s.settings.database).mapError Failure.database
  if s.settings.database.runMigrations then s.server.migration.mapError Failure.database
  return pool

def startServer (s : Surroundings) (args : List String) : Ending :=
  match Listening.ofArguments s.environment args with
  | .error halt => .halted Listening.command halt
  | .ok place =>
    match s.serverPool with
    | .ok pool => .listening place pool
    | .error failure => .failed failure

end CampaignFetch.Cli

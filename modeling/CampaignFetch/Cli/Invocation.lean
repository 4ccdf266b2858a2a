import CampaignFetch.Cli.Arguments
import CampaignFetch.Fetch.Column
import CampaignFetch.Settings

/-!
# What the command lines ask for

Operators call the program with a task: to issue a token, to bring the schema up to date, or to
fetch. The server is called with the port and the address to listen at.

* `Invocation.ofArguments` reads a task and the form of the report. Text and JSON can be asked for
  at any level of the command line; text wins.
* `Listening.ofArguments` reads where to listen; the environment can give what the arguments do not.
-/

namespace CampaignFetch.Cli

inductive Format where
  | text
  | json
  deriving DecidableEq, Repr

/-- What an operator asks for. -/
inductive Task where
  /-- Issue a token for a subject, with a lifetime in hours if it is not the usual one. -/
  | token (subject : String) (hours : Option Nat)
  /-- Bring the schema up to date. -/
  | migrate
  /-- Fetch entities of a kind with the related ones. -/
  | fetch (kind : Kind) (fields filters : Option String) (limit : Option Int)
  deriving DecidableEq, Repr

/-- A task and the forms asked for. -/
structure Invocation where
  text : Bool
  json : Bool
  task : Task
  deriving DecidableEq, Repr

def Invocation.format (i : Invocation) : Format := if i.json && !i.text then .json else .text

/-! ## The operators' commands -/

def textFlag : String := "text"

def jsonFlag : String := "json"

/-- The flags that every command of operators takes. -/
def formatFlags : List String := [textFlag, jsonFlag]

/-- An option that accepts every text. -/
def freeOption (name : String) : ValueOption := ⟨name, fun _ => true⟩

/-- How many bits a number of hours has. -/
def hoursBits : Nat := 64

def tokenCommand : Command :=
  ⟨"token", false, formatFlags, [⟨"hours", fun s => (Text.nat? hoursBits s).isSome⟩], 1, []⟩

def migrateCommand : Command := ⟨"migrate", false, formatFlags, [], 0, []⟩

/-- The word for entities of a kind. -/
def plural : Kind → String
  | .campaign => "campaigns"
  | .adGroup => "ad-groups"

def fetchKindCommand (kind : Kind) : Command :=
  ⟨plural kind, false, formatFlags, [freeOption "fields", freeOption "filters",
    ⟨"limit", fun s => (Text.int64? s).isSome⟩], 0, []⟩

def fetchCommand : Command :=
  ⟨"fetch", false, formatFlags, [], 0, [fetchKindCommand .campaign, fetchKindCommand .adGroup]⟩

def operatorCommand : Command :=
  ⟨"campaign", true, formatFlags, [], 0, [tokenCommand, migrateCommand, fetchCommand]⟩

namespace Task

/-- The task of the innermost command with what was given to it. -/
def ofGiven (g : Given) : Task :=
  let fetch (kind : Kind) : Task :=
    .fetch kind (g.value? "fields") (g.value? "filters") ((g.value? "limit").bind Text.int64?)
  if g.command = tokenCommand.name then
    .token (g.words.headD "") ((g.value? "hours").bind (Text.nat? hoursBits))
  else if g.command = plural .campaign then fetch .campaign
  else if g.command = plural .adGroup then fetch .adGroup
  else .migrate

end Task

namespace Invocation

/-- What the arguments ask for. -/
def ofArguments (args : List String) : Except Halt Invocation := do
  let levels ← operatorCommand.read args
  let isGiven (flag : String) : Bool := levels.any fun g => g.hasFlag flag
  match levels.getLast? with
  | some g => return ⟨isGiven textFlag, isGiven jsonFlag, .ofGiven g⟩
  | none => throw .nothingGiven

end Invocation

/-! ## The server's command -/

/-- Where the server listens. -/
structure Listening where
  port : Nat
  address : String
  deriving DecidableEq, Repr

namespace Listening

/-- A port: an integer in the range of ports. -/
def port? (s : String) : Option Nat :=
  (Text.int64? s).bind fun n => if 0 ≤ n ∧ n < 65536 then some n.toNat else none

def command : Command :=
  ⟨applicationName, true, [], [⟨"port", fun s => (port? s).isSome⟩, freeOption "bind"], 0, []⟩

def portVariable : String := "CAMPAIGN_API_PORT"

def addressVariable : String := "CAMPAIGN_API_BIND"

/-- Where the arguments say to listen, or else the environment. -/
def ofArguments (env : Variables) (args : List String) : Except Halt Listening := do
  let levels ← command.read args
  let value? (option setting : String) : Option String :=
    (levels.findSome? fun g => g.value? option) <|> env setting
  let address := (value? "bind" addressVariable).getD "0.0.0.0"
  match value? "port" portVariable with
  | none => return ⟨3000, address⟩
  | some text =>
    match port? text with
    | some port => return ⟨port, address⟩
    | none => throw .badValue

end Listening

end CampaignFetch.Cli

import CampaignFetch.Cli.Invocation
import CampaignFetch.Json.Printer

/-!
# Reports

What operators are told when a task is done, either as text or as a document that is laid out over
several lines with its keys sorted. As text, a token stands alone on its line and a collection has a
line for each entity.
-/

namespace CampaignFetch.Cli

/-- What a task reports. -/
inductive Report where
  /-- A token with the subject and the hours that it was issued for. -/
  | token (text subject : String) (hours : Nat)
  | migrated
  | fetched (documents : List Json)

namespace Report

/-- Lines, each with its end. -/
def lines (ls : List String) : String := String.join (ls.map (· ++ "\n"))

/-- What is told about a task that gives no data. -/
def message : String := "Migrations applied"

def asText : Report → String
  | .token text _ _ => lines [text]
  | .migrated => lines ["✓ " ++ message]
  | .fetched [] => lines ["No results"]
  | .fetched documents => lines (documents.map Json.text)

def toJson : Report → Json
  | .token text subject hours =>
    .object [("success", .bool true), ("message", .string "Token issued"),
      ("data", .object [("token", .string text), ("subject", .string subject),
        ("expires_in_hours", .int hours)])]
  | .migrated => .object [("success", .bool true), ("message", .string message)]
  | .fetched documents => .object [("success", .bool true), ("data", .array documents)]

def render (r : Report) : Format → String
  | .text => r.asText
  | .json => lines [r.toJson.sorted.pretty]

end Report

end CampaignFetch.Cli

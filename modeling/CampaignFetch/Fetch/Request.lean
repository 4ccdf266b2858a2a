import CampaignFetch.Database.Fault
import CampaignFetch.Fetch.Filter

/-!
# Requests

What a caller asks for: fields by name, filters, and the greatest number of results.

* `Request.of?` makes a request from parts that are already separate. Names are trimmed, empty ones
  and repetitions dropped.
* `Request.ofTexts?` and `Request.ofArguments?` make one from the texts of a query string and from
  the arguments of a command; both take the same texts for fields and filters.
-/

namespace CampaignFetch

/-- Why a fetch was refused or failed. -/
inductive FetchFault where
  | unsupportedOperator (operator : String)
  | invalidFilters (message : String)
  | invalidLimit (message : String)
  | execution (cause : DatabaseFault)
  deriving DecidableEq, Repr

def FetchFault.message : FetchFault → String
  | .unsupportedOperator operator => "Unsupported operator: " ++ operator
  | .invalidFilters message => "Invalid filters: " ++ message
  | .invalidLimit message => "Invalid limit: " ++ message
  | .execution cause => "Fetch execution failed: " ++ cause.message

/-- The fault of a limit that asks for nothing. -/
def FetchFault.limitNotPositive (limit : Int) : FetchFault :=
  .invalidLimit ("Limit must be positive, got " ++ Text.ofInt limit)

/-- The fault of a text that is no limit. -/
def FetchFault.limitNotInteger (text : String) : FetchFault :=
  .invalidLimit ("Limit must be an integer, got '" ++ text ++ "'")

/-- What a caller asks for. -/
structure Request where
  fields : List String
  filters : List Filter
  limit : Int
  deriving DecidableEq, Repr

namespace Request

/-- The limit of a request that names none. -/
def defaultLimit : Int := 100

/-- The names in order of their first occurrence, trimmed, without empty ones. -/
def normalize (names : List String) : List String :=
  names.foldl (fun seen name =>
    let name := Text.trim name
    if name.isEmpty || seen.contains name then seen else seen ++ [name]) []

/-- The request with the given parts, if its limit is positive. -/
def of? (fields : List String) (filters : List Filter) (limit : Int) :
    Except FetchFault Request :=
  if limit < 1 then .error (.limitNotPositive limit)
  else .ok { fields := normalize fields, filters, limit }

/-- The trimmed names in a comma-separated text, without empty ones. -/
def splitFields (text : Option String) : List String :=
  match text with
  | none => []
  | some s =>
    ((Text.pieces ',' s.toList).map fun piece => Text.trim (String.ofList piece)).filter
      fun name => !name.isEmpty

/-- The filters that an optional text lists. -/
def readFilters (text : Option String) : Except FetchFault (List Filter) :=
  match text with
  | none => .ok []
  | some s => (Filter.parseList s).mapError fun fault =>
      .invalidFilters (fault.message (Text.encode s))

/-- The limit that an optional text names. A blank text names none. -/
def readLimit (text : Option String) : Except FetchFault Int :=
  match text.map Text.trim with
  | none => .ok defaultLimit
  | some s =>
    if s.isEmpty then .ok defaultLimit
    else match Text.int64? s with
      | some n => .ok n
      | none => .error (.limitNotInteger s)

/-- The request written by the texts of a query string. -/
def ofTexts? (fields filters limit : Option String) : Except FetchFault Request := do
  let filters ← readFilters filters
  let limit ← readLimit limit
  of? (splitFields fields) filters limit

/-- The request written by the arguments of a command. -/
def ofArguments? (fields filters : Option String) (limit : Option Int) :
    Except FetchFault Request := do
  let filters ← readFilters filters
  of? (splitFields fields) filters (limit.getD defaultLimit)

end Request

end CampaignFetch

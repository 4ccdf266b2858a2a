import CampaignFetch.Fetch.Request
import CampaignFetch.Http.MediaType
import CampaignFetch.Json.Fault
import CampaignFetch.Text.Percent

/-!
# Reading the parts of a request

What a route needs from a request is read from its path, its query or its body. A part that cannot
be read is rejected with a plain text.

* `readName` and `readId` read a segment of the path.
* `readQuery` reads the three parameters of a fetch; other parameters are ignored.
* `readBody` reads a document of a limited length. What follows the document is not looked at.
-/

namespace CampaignFetch.Http

/-- Why a part of a request is rejected. -/
inductive Rejection where
  /-- The segment for a parameter of the path is no text. -/
  | segmentNotText (parameter : String)
  /-- The segment is no integer. -/
  | segmentNotInteger (text : String)
  /-- A parameter of the query is given twice. -/
  | parameterRepeated (name : String)
  /-- The body is not said to be a document. -/
  | mediaType
  /-- The body is longer than bodies may be. -/
  | bodyTooLong
  | body (fault : Json.Fault) (document : Bytes)
  deriving Repr

namespace Rejection

def status : Rejection → Nat
  | segmentNotText _ | segmentNotInteger _ | parameterRepeated _ => 400
  | mediaType => 415
  | bodyTooLong => 413
  | body fault _ => if fault.cause.isData then 422 else 400

/-- What is said about a body: the way to the part at fault, and what is wrong with it. -/
def bodyMessage (fault : Json.Fault) (document : Bytes) : String :=
  (if fault.path.isEmpty then "" else fault.pathText ++ ": ") ++ fault.message document

def message : Rejection → String
  | segmentNotText parameter => "Invalid URL: Invalid UTF-8 in `" ++ parameter ++ "`"
  | segmentNotInteger text => "Invalid URL: Cannot parse `" ++ Text.quoted text ++ "` to a `i64`"
  | parameterRepeated name =>
    "Failed to deserialize query string: duplicate field `" ++ name ++ "`"
  | mediaType => "Expected request with `Content-Type: application/json`"
  | bodyTooLong => "Failed to buffer the request body: length limit exceeded"
  | body fault document =>
    (if fault.cause.isData then "Failed to deserialize the JSON body into the target type: "
    else "Failed to parse the request body as JSON: ") ++ bodyMessage fault document

end Rejection

/-! ## Segments of the path -/

/-- The text of the segment for a parameter. -/
def readName (parameter segment : String) : Except Rejection String :=
  (Text.decode (Text.percentDecode (Text.encode segment))).mapError fun _ =>
    .segmentNotText parameter

/-- The identity in a segment. -/
def readId (segment : String) : Except Rejection Int := do
  let text ← readName "id" segment
  match Text.int64? text with
  | some id => return id
  | none => throw (.segmentNotInteger text)

/-! ## The query -/

/-- The parameters of a fetch. -/
def fetchParameters : List String := ["fields", "filters", "limit"]

/-- The first of the fetch parameters that occurs in `names` after it is in `seen`. -/
def repeated? (seen : List String) : (names : List String) → Option String
  | [] => none
  | name :: names =>
    if !fetchParameters.contains name then repeated? seen names
    else if seen.contains name then some name
    else repeated? (name :: seen) names

/-- The parameters of a query: the value of each that is given. -/
def readQuery (query : Option String) : Except Rejection (String → Option String) :=
  let pairs := Text.formPairs (Text.encode (query.getD ""))
  match repeated? [] (pairs.map (·.1)) with
  | some name => .error (.parameterRepeated name)
  | none => .ok fun name => (pairs.find? fun p => p.1 = name).map (·.2)

/-! ## The body -/

/-- Whether the request says that its body is a document. -/
def Request.hasDocument (r : Request) : Bool :=
  ((r.header? "content-type").filter isPlain).any fun value =>
    (MediaType.ofText? value).any MediaType.isJson

/-- The greatest number of bytes of a body. -/
def maxBody : Nat := 2 * 1024 * 1024

/-- The document in the body of a request. -/
def readBody {α : Type} (read : Json.Reader α) (r : Request) : Except Rejection α :=
  if !r.hasDocument then .error .mediaType
  else if maxBody < r.body.utf8ByteSize then .error .bodyTooLong
  else
    let document := Text.encode r.body
    match read document with
    | .ok (a, _) => .ok a
    | .error fault => .error (.body fault document)

end CampaignFetch.Http

import CampaignFetch.Http.Target
import CampaignFetch.Json.Value
import CampaignFetch.Text.Ascii

/-!
# Requests and responses

A request has a method, a target, headers and a body. `Http.Request.ofParts?` makes a request only
from parts that can be sent.

A response has a status, the headers that this application sets, and a document, a text or nothing.
-/

namespace CampaignFetch.Http

/-! ## Characters -/

/-- Whether the character may stand in a method, in the name of a header and in other tokens. -/
def isTokenChar (c : Char) : Bool :=
  c.isAlphanum || "!#$%&'*+-.^_`|~".toList.contains c

/-- Whether a text is a token. -/
def isToken (s : String) : Bool := !s.isEmpty && s.toList.all isTokenChar

/-- Whether the character may stand in the value of a header. -/
def isHeaderChar (c : Char) : Bool := c = '\t' || (32 ≤ c.toNat && c.toNat ≠ 127)

/-- Whether the text of a header is plain: visible ASCII characters, spaces and tabs. -/
def isPlain (s : String) : Bool := s.toList.all fun c => c = '\t' || (32 ≤ c.toNat && c.toNat < 127)

/-! ## Requests -/

structure Request where
  method : String
  target : Target
  headers : List (String × String)
  body : String
  deriving DecidableEq, Repr

namespace Request

/-- The request with the given parts, if they can be sent. -/
def ofParts? (method target : String) (headers : List (String × String)) (body : String) :
    Option Request :=
  let sendable := fun (name, value) => isToken name && value.toList.all isHeaderChar
  match Target.ofText? target with
  | some target =>
    if isToken method && headers.all sendable then some ⟨method, target, headers, body⟩ else none
  | none => none

/-- The first value of a header; the case of its name does not matter. -/
def header? (r : Request) (name : String) : Option String :=
  (r.headers.find? fun h => Ascii.lowercase h.1 = Ascii.lowercase name).map (·.2)

end Request

/-! ## Responses -/

inductive Content where
  | empty
  | document (value : Json)
  | text (value : String)

/-- The media type of the content. -/
def Content.type : Content → Option String
  | .empty => none
  | .document _ => some "application/json"
  | .text _ => some "text/plain; charset=utf-8"

/-- The id by which a request can be traced. -/
inductive TraceId where
  /-- The client chose the id. -/
  | given (text : String)
  /-- The id is made afresh. -/
  | generated
  deriving DecidableEq, Repr

structure Response where
  status : Nat
  /-- The methods of the route, where they are told. -/
  allow : Option String
  contentType : Option String
  traceId : Option TraceId
  /-- The origins whose scripts may read the response. -/
  allowOrigin : String
  content : Content

end CampaignFetch.Http

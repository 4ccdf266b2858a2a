import CampaignFetch.Token.EmbeddedKey
import CampaignFetch.Token.Signed

/-!
# Validating tokens

A token is accepted when its header names the one algorithm in use, its signature is that of its
parts under the secret, it claims what claims have to, it has not expired for more than a minute and
it is not meant for a particular audience. What is checked first is reported first, in this order.

* `Token.check` decides about a token; `Token.validate` also needs a secret to be there.
* `Registered` holds the claims that are checked. They are read leniently: a value that does not fit
  counts as absent, and reading goes on from where the value was given up.
-/

namespace CampaignFetch

namespace Token

/-- Why a token is not accepted. -/
inductive Refusal where
  /-- It does not consist of three parts. -/
  | malformed
  | base64 (fault : Text.Base64.Fault)
  | document (fault : Json.Fault) (text : Bytes)
  | algorithm
  | signature
  | expiryMissing
  | expired
  | audience
  deriving Repr

def Refusal.message : Refusal → String
  | .malformed => "InvalidToken"
  | .base64 fault => "Base64 error: " ++ fault.message
  | .document fault text => "JSON error: " ++ fault.message text
  | .algorithm => "InvalidAlgorithm"
  | .signature => "InvalidSignature"
  | .expiryMissing => "Missing required claim: exp"
  | .expired => "ExpiredSignature"
  | .audience => "InvalidAudience"

/-! ## Headers -/

/-- The algorithms that a header can name, each with whether it is the one in use. -/
def algorithms : List (String × Bool) :=
  ("HS256", true) :: ["HS384", "HS512", "ES256", "ES384", "RS256", "RS384", "RS512", "PS256",
    "PS384", "PS512", "EdDSA"].map fun name => (name, false)

/-- The fields of a header. Only the algorithm matters. -/
def headerFields : List (Json.Field Bool) :=
  let note (name : String) : Json.Field Bool :=
    .of name .optional (Json.readOption Json.readText) fun _ known => known
  [note "typ",
    .of "alg" .required (Json.readVariant algorithms) fun known _ => known,
    note "cty", note "jku",
    .of "jwk" .optional (Json.readOption EmbeddedKey.read) fun _ known => known,
    note "kid", note "x5u",
    .of "x5c" .optional (Json.readOption (Json.readList Json.readText)) fun _ known => known,
    note "x5t", note "x5t#S256"]

/-- Reads a header: whether it names the algorithm in use. -/
def readHeader : Json.Reader Bool := Json.readRecord "Header" headerFields false

/-! ## Registered claims -/

/-- The claims that are checked. -/
structure Registered where
  /-- The time of expiry, if it is a number of seconds that is not negative. -/
  expires : Option Int
  /-- Whether the token names its audience. -/
  forAudience : Bool
  deriving DecidableEq, Repr

/-- The greatest number of lists and objects that are open at once in a claim. -/
def maxLevels : Nat := 126

/-- The time that a value gives: a number of seconds that is not negative. -/
def time? : Json → Option Int
  | .number (.int n) => if n < 0 then none else some n
  | _ => none

/-- Reads a time. A list or an object is given up as soon as it has been opened. -/
def readTime : Json.Reader (Option Int) := fun bs =>
  match Json.skipBlank bs with
  | Ascii.openBracket :: rest => .ok (none, Json.passListEnd rest)
  | Ascii.openBrace :: rest => .ok (none, Json.passBrace rest)
  | bs => (Json.readLeniently (Json.readJson 0) bs).map fun (j, rest) => (j.bind time?, rest)

/-- Whether a value names an audience: a string or a list of strings. -/
def namesAudience : Json → Bool
  | .string _ => true
  | .array items => items.all EmbeddedKey.isText
  | _ => false

/-- Reads any claim. -/
def readClaim : Json.Reader (Option Json) := fun bs =>
  (Json.readLeniently (Json.readOption (Json.readJson maxLevels)) bs).map fun (j, rest) =>
    (j.join, rest)

/-- Reads the claim about the caller. -/
def readSubject : Json.Reader (Option String) := fun bs =>
  (Json.readLeniently (Json.readOption Json.readText) bs).map fun (s, rest) => (s.join, rest)

def registeredFields : List (Json.Field Registered) := [
  .of "exp" .defaulted readTime fun x r => { r with expires := x },
  .of "nbf" .defaulted readTime fun _ r => r,
  .of "sub" .optional readSubject fun _ r => r,
  .of "iss" .optional readClaim fun _ r => r,
  .of "aud" .optional readClaim fun x r => { r with forAudience := x.any namesAudience }]

def readRegistered : Json.Reader Registered :=
  Json.readRecord "ClaimsForValidation" registeredFields ⟨none, false⟩

/-! ## Validation -/

/-- The number of seconds for which a token is still accepted after its expiry. -/
def leeway : Int := 60

/-- What a part holds in Base64. -/
def unpack (part : Bytes) : Except Refusal Bytes := (Text.Base64.decode part).mapError .base64

/-- Reads a document that takes up a whole part. -/
def readPart {α : Type} (read : Json.Reader α) (document : Bytes) : Except Refusal α :=
  (Json.readWhole read document).mapError fun fault => .document fault document

/-- The claims of the token if it is accepted at the time `now`. -/
def check (secret : String) (now : Int) (token : Bytes) : Except Refusal Claims := do
  let some (signed, signature) := splitLast? point token | throw .malformed
  let some (header, payload) := splitLast? point signed | throw .malformed
  let header ← unpack header
  if !(← readPart readHeader header) then throw .algorithm
  if signature ≠ Token.signature secret signed then throw .signature
  let payload ← unpack payload
  let claims ← readPart Claims.read payload
  let registered ← readPart readRegistered payload
  match registered.expires with
  | none => throw .expiryMissing
  | some expires => if expires < now - leeway then throw .expired
  if registered.forAudience then throw .audience
  return claims

/-- The claims of a token text. Without a secret no token is accepted. -/
def validate (secret : String) (now : Int) (token : String) : Except TokenFault Claims :=
  if secret.isEmpty then .error .secretMissing
  else (check secret now (Text.encode token)).mapError fun (r : Refusal) => .invalid r.message

end Token

end CampaignFetch

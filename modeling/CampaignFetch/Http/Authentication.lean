import CampaignFetch.Http.Problem
import CampaignFetch.Http.Message
import CampaignFetch.Settings
import CampaignFetch.Token.Validation

/-!
# Authenticating callers

A caller shows a token in the authorization header, after the word `Bearer` and one space. Only the
claims of a valid token say who the caller is.
-/

namespace CampaignFetch.Http

/-- What comes before the token. -/
def bearer : String := "Bearer "

/-- What follows the given text at the front of another one. -/
def afterFront? (front s : String) : Option String :=
  if front.toList.isPrefixOf s.toList then some (String.ofList (s.toList.drop front.length))
  else none

/-- The token that a request shows. -/
def Request.token (r : Request) : Except Problem String :=
  match r.header? "authorization" with
  | none => .error (.unauthorized "Missing Authorization header")
  | some value =>
    if !isPlain value then .error (.unauthorized "Invalid Authorization header format")
    else match afterFront? bearer value with
      | none => .error (.unauthorized "Authorization header must use Bearer token format")
      | some token =>
        if Text.isBlankText token then .error (.unauthorized "Empty JWT token") else .ok token

/-- The claims of the caller at the time `now`. -/
def authenticate (security : SecuritySettings) (now : Int) (r : Request) :
    Except Problem Claims := do
  let token ← r.token
  (Token.validate security.secret now token).mapError .ofToken

end CampaignFetch.Http

import CampaignFetch.Digest.Hmac
import CampaignFetch.Text.Base64
import CampaignFetch.Token.Claims

/-!
# Signed tokens

A token consists of three parts with points between them: a header and the claims, each as a
document in Base64, and the signature, which is the keyed digest of the two parts before it, also in
Base64.

* `Claims.sign` makes the token of claims.
* `Token.splitLast?` takes a token apart, from its end.
-/

namespace CampaignFetch

namespace Token

def point : UInt8 := Ascii.dot

/-- The header of the tokens made here. -/
def header : Json := .object [("typ", .string "JWT"), ("alg", .string "HS256")]

/-- The part that holds a document. -/
def part (document : Json) : Bytes := Text.Base64.encode (Text.encode document.text)

/-- The signature of the two parts before it. -/
def signature (secret : String) (signed : Bytes) : Bytes :=
  Text.Base64.encode (Digest.hmacSha256 (Text.encode secret) signed)

/-- What stands before and after the last occurrence of a byte. -/
def splitLast? (separator : UInt8) (bs : Bytes) : Option (Bytes × Bytes) :=
  match bs.reverse.dropWhile (· ≠ separator) with
  | [] => none
  | _ :: before => some (before.reverse, (bs.reverse.takeWhile (· ≠ separator)).reverse)

/-- The signed parts of a token with the given claims. -/
def signedParts (claims : Claims) : Bytes := part header ++ point :: part claims.toJson

end Token

/-- The token of claims. Without a secret nothing is signed. -/
def Claims.sign (claims : Claims) (secret : String) : Except TokenFault String :=
  if secret.isEmpty then .error .secretMissing
  else
    let signed := Token.signedParts claims
    .ok (Text.decodeLossy (signed ++ Token.point :: Token.signature secret signed))

end CampaignFetch

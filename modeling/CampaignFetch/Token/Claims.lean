import CampaignFetch.Calendar.Instant
import CampaignFetch.Json.Record

/-!
# What a token claims

A token names a caller and says when it was issued and until when it holds. The times are seconds
since the beginning of 1970. A lifetime is given in hours, and must end before the calendar does.
-/

namespace CampaignFetch

/-- What can go wrong with tokens. -/
inductive TokenFault where
  /-- No token can be made. -/
  | generation (message : String)
  | invalid (message : String)
  /-- There is no secret to sign with. -/
  | secretMissing
  deriving DecidableEq, Repr

def TokenFault.message : TokenFault → String
  | .generation message => "JWT generation error: " ++ message
  | .invalid message => "Invalid JWT token: " ++ message
  | .secretMissing => "JWT secret not configured"

/-- What a token claims. -/
structure Claims where
  /-- The caller. -/
  subject : String
  /-- The time from which the token does not hold any more. -/
  expires : Int
  /-- The time when the token was issued. -/
  issued : Int
  deriving DecidableEq, Repr

namespace Claims

def toJson (c : Claims) : Json :=
  .object [("sub", .string c.subject), ("exp", .int c.expires), ("iat", .int c.issued)]

def fields : List (Json.Field Claims) := [
  .of "sub" .required Json.readText fun x c => { c with subject := x },
  .of "exp" .required Json.readInt64 fun x c => { c with expires := x },
  .of "iat" .required Json.readInt64 fun x c => { c with issued := x }]

def read : Json.Reader Claims := Json.readRecord "Claims" fields ⟨"", 0, 0⟩

/-- When a token that is issued now holds no more. -/
def ending? (now : Calendar.Instant) (hours : Nat) : Option Calendar.Instant := do
  let hours ← Option.guard Text.fitsInt64 (hours : Int)
  now.add? (← Calendar.Span.ofHours? hours)

/-- The fault of a lifetime that is too long. -/
def lifetimeTooLong (hours : Nat) : TokenFault :=
  .generation ("Token lifetime of " ++ Text.ofInt hours ++ " hours is out of range")

/-- The claims of a token issued when a clock shows `now`. The part of the second that has passed
is not claimed. -/
def issueAt (now : Calendar.Instant) (subject : String) (hours : Nat) :
    Except TokenFault Claims :=
  match ending? now hours with
  | some ending =>
    .ok { subject, expires := ending.timestamp.toInt, issued := now.timestamp.toInt }
  | none => .error (lifetimeTooLong hours)

/-- The claims of a token issued so many seconds after the beginning of 1970. -/
def issue (now : Int) (subject : String) (hours : Nat) : Except TokenFault Claims :=
  match Calendar.Instant.ofSeconds? now with
  | some now => issueAt now subject hours
  | none => .error (lifetimeTooLong hours)

end Claims

end CampaignFetch

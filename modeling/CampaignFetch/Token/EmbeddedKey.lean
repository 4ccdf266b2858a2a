import CampaignFetch.Json.Parser

/-!
# Keys embedded in headers

The header of a token may hold a key. It is not used, but it has to be a key: the entries that all
keys have in common are of their types, and the other ones make up a key of one of four families.

* `EmbeddedKey.fault?` says what is wrong with the entries of a key.
* `EmbeddedKey.read` reads a key and drops it.
-/

namespace CampaignFetch.Token.EmbeddedKey

open Json (Cause)

/-! ## Common entries -/

/-- What is wrong with a value that has to be a text. -/
def textFault? : Json → Option Cause
  | .string _ => none
  | j => some (.invalidType (.ofJson j) "a string")

/-- What is wrong with a value that has to be a list of texts. -/
def textsFault? : Json → Option Cause
  | .array items => items.findSome? textFault?
  | j => some (.invalidType (.ofJson j) "a sequence")

/-- The algorithms that a key can be meant for. -/
def algorithms : List String :=
  ["HS256", "HS384", "HS512", "ES256", "ES384", "RS256", "RS384", "RS512", "PS256", "PS384",
    "PS512", "EdDSA", "RSA1_5", "RSA-OAEP", "RSA-OAEP-256"]

/-- What is wrong with the name of an algorithm. -/
def nameFault? (name : String) : Option Cause :=
  if algorithms.contains name then none else some (.unknownVariant name algorithms)

/-- What is wrong with the content of an algorithm, which has none. -/
def contentFault? : Json → Option Cause
  | .null | .object [] => none
  | j => some (.invalidType (.ofJson j) "unit")

/-- What is wrong with a value that has to be an algorithm. -/
def algorithmFault? : Json → Option Cause
  | .string name => nameFault? name
  | .object [(name, content)] => nameFault? name <|> contentFault? content
  | .object _ => some (.invalidValue .map "map with a single key")
  | j => some (.invalidType (.ofJson j) "string or map")

/-- The common entries, each with what can be wrong with its value. Null is right for all. -/
def common : List (String × (Json → Option Cause)) := [
  ("use", textFault?), ("key_ops", textsFault?), ("alg", algorithmFault?), ("kid", textFault?),
  ("x5u", textFault?), ("x5c", textsFault?), ("x5t", textFault?), ("x5t#S256", textFault?)]

/-- What is wrong with the first common entry at fault, after those named in `seen`. -/
def commonFault? (seen : List String) : (entries : List (String × Json)) → Option Cause
  | [] => none
  | (key, value) :: entries =>
    match common.lookup key with
    | none => commonFault? seen entries
    | some fault? =>
      if seen.contains key then some (.duplicateField key)
      else (if value.isNull then none else fault? value) <|> commonFault? (key :: seen) entries

/-! ## Families -/

/-- Whether a value is a text. -/
def isText (j : Json) : Bool := j.string?.isSome

/-- Whether a value is one of the names, alone or as the key of null. -/
def isOneOf (names : List String) : Json → Bool
  | .string name | .object [(name, .null)] => names.contains name
  | _ => false

/-- The curves that a key can lie on. -/
def curves : List String := ["P-256", "P-384", "P-521", "Ed25519"]

/-- The families of keys: the entries that each needs, with what their values have to be. -/
def families : List (List (String × (Json → Bool))) := [
  [("kty", isOneOf ["EC"]), ("crv", isOneOf curves), ("x", isText), ("y", isText)],
  [("kty", isOneOf ["RSA"]), ("n", isText), ("e", isText)],
  [("kty", isOneOf ["oct"]), ("k", isText)],
  [("kty", isOneOf ["OKP"]), ("crv", isOneOf curves), ("x", isText)]]

/-- Whether the entries have what a family needs, each of it once. -/
def isOfFamily (entries : List (String × Json)) (family : List (String × (Json → Bool))) : Bool :=
  family.all fun (key, accepts) =>
    match entries.filter fun e => e.1 = key with
    | [(_, value)] => accepts value
    | _ => false

/-! ## Keys -/

/-- What is wrong with the entries of a key. -/
def fault? (entries : List (String × Json)) : Option Cause :=
  commonFault? [] entries <|>
    if families.any (isOfFamily entries) then none
    else some (.other "data did not match any variant of untagged enum AlgorithmParameters")

/-- The greatest number of lists and objects that are open at once in a key. -/
def maxLevels : Nat := 126

/-- Reads a key. Faults of its entries stand behind the key. -/
def read : Json.Reader Unit := fun bs =>
  match Json.skipBlank bs with
  | Ascii.openBrace :: rest => do
    let (j, rest) ← Json.readJson maxLevels (Ascii.openBrace :: rest)
    match fault? j.entries with
    | none => return ((), rest)
    | some cause => throw (.here cause rest)
  | [] => .error (.next .eofValue [])
  | bs => .error (Json.wrongType "struct Jwk" bs)

end CampaignFetch.Token.EmbeddedKey

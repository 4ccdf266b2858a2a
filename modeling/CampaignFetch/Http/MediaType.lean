import CampaignFetch.Http.Message

/-!
# Media types

A media type is written as a type, a slash, a subtype and parameters after semicolons. A subtype may
end in a plus sign and a suffix. Case does not matter.

`MediaType.ofText?` reads a media type; its parameters are checked and dropped.
-/

namespace CampaignFetch.Http

/-- A media type in small letters, without parameters. -/
structure MediaType where
  type : String
  /-- The subtype up to its last plus sign. -/
  subtype : String
  /-- What follows the last plus sign of the subtype. -/
  suffix : Option String
  deriving DecidableEq, Repr

namespace MediaType

/-- What a reader of parameters is about to meet. -/
inductive Awaiting where
  /-- A parameter, or blanks before it. -/
  | parameter
  /-- More of a name, or the sign after it. -/
  | name
  /-- The first character of a value. -/
  | value
  /-- More of a value. -/
  | moreValue
  /-- The first character between quotes. -/
  | quoted
  /-- More between quotes. -/
  | moreQuoted
  /-- Blanks or the end of a quoted value. -/
  | afterQuoted
  deriving DecidableEq, Repr

/-- Whether the character may stand between quotes. -/
def isQuotedChar (c : Char) : Bool := 32 ≤ c.toNat && c.toNat ≠ 127

/-- What comes after a character of the parameters, if it may stand there. -/
def Awaiting.after (c : Char) : Awaiting → Option Awaiting
  | parameter => if c = ' ' then some parameter else if isTokenChar c then some name else none
  | name => if c = '=' then some value else if isTokenChar c then some name else none
  | value => if c = '"' then some quoted else if isTokenChar c then some moreValue else none
  | moreValue => if c = ';' then some parameter else if isTokenChar c then some moreValue else none
  | quoted => if isQuotedChar c then some moreQuoted else none
  | moreQuoted =>
    if c = '"' then some afterQuoted else if isQuotedChar c then some moreQuoted else none
  | afterQuoted => if c = ';' then some parameter else if c = ' ' then some afterQuoted else none

/-- Whether parameters may end here. -/
def Awaiting.mayEnd : Awaiting → Bool
  | parameter | value | moreValue | afterQuoted => true
  | name | quoted | moreQuoted => false

/-- Whether parameters are well written. -/
def areParameters (cs : List Char) : Bool :=
  (cs.foldl (fun a c => a.bind (Awaiting.after c)) (some Awaiting.parameter)).any Awaiting.mayEnd

/-- The subtype up to its last plus sign, and what follows the sign. A sign at the front does not
count. -/
def splitSuffix (cs : List Char) : List Char × Option (List Char) :=
  let suffix := (cs.reverse.takeWhile (· ≠ '+')).reverse
  let front := cs.take (cs.length - suffix.length - 1)
  if front.isEmpty then (cs, none) else (front, some suffix)

/-- The media type that a text writes. -/
def ofText? (s : String) : Option MediaType :=
  let cs := (Ascii.lowercase s).toList
  let type := cs.takeWhile isTokenChar
  match cs.dropWhile isTokenChar with
  | '/' :: rest =>
    let subtype := rest.takeWhile isTokenChar
    let wellEnded := match rest.dropWhile isTokenChar with
      | [] => true
      | ';' :: parameters => !subtype.isEmpty && areParameters parameters
      | _ => false
    if type.isEmpty || !wellEnded then none
    else
      let (front, suffix) := splitSuffix subtype
      some ⟨String.ofList type, String.ofList front, suffix.map String.ofList⟩
  | _ => none

/-- Whether documents of the type are written in JSON. -/
def isJson (m : MediaType) : Bool :=
  m.type = "application" && (m.subtype = "json" || m.suffix = some "json")

end MediaType

end CampaignFetch.Http

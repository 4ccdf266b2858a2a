import CampaignFetch.Json.Record

/-!
# Reading any value

`Json.parse?` reads a document as a value of whatever type it is, `Json.readJson` reads a value
inside a document. Entries keep their order and repeated keys stay. A list or an object that cannot
be read is left behind its end if the reader stands there.
-/

namespace CampaignFetch.Json

/-- Reads the entries of an object, of which there are fewer than `bound` has bytes. -/
def readEntries (value : Reader Json) :
    (bound : Bytes) → (first : Bool) → Reader (List (String × Json))
  | [], _, bs => .error (.next .eofObject bs)
  | _ :: bound, first, bs => do
    match ← nextKey first bs with
    | none => return ([], passBrace bs)
    | some bs => do
      let (key, rest) ← readString bs
      let (j, rest) ← (value (← readColon rest)).mapError (·.under (.key key))
      let (entries, rest) ← readEntries value bound false rest
      return ((key, j) :: entries, rest)

/-- Reads a value in which at most `levels` lists and objects are open at once. -/
def readJson : (levels : Nat) → Reader Json
  | levels, bs =>
    match skipBlank bs with
    | [] => .error (.next .eofValue [])
    | Ascii.letterN :: rest => (readIdent ullBytes rest).map fun rest => (.null, rest)
    | Ascii.letterT :: rest => (readIdent rueBytes rest).map fun rest => (.bool true, rest)
    | Ascii.letterF :: rest => (readIdent alseBytes rest).map fun rest => (.bool false, rest)
    | Ascii.minus :: rest => (readNumber true rest).map fun (n, rest) => (.number n, rest)
    | Ascii.quote :: rest => (readString rest).map fun (s, rest) => (.string s, rest)
    | Ascii.openBracket :: rest =>
      match levels with
      | 0 => .error (.next .tooDeep (Ascii.openBracket :: rest))
      | levels + 1 =>
        match readItems (readJson levels) rest 0 rest with
        | .ok (js, rest) => .ok (.array js, rest)
        | .error fault => .error (fault.leaving passListEnd rest)
    | Ascii.openBrace :: rest =>
      match levels with
      | 0 => .error (.next .tooDeep (Ascii.openBrace :: rest))
      | levels + 1 =>
        match readEntries (readJson levels) rest true rest with
        | .ok (es, rest) => .ok (.object es, rest)
        | .error fault => .error (fault.leaving passBrace rest)
    | b :: rest =>
      if Ascii.isDigit b then
        (readNumber false (b :: rest)).map fun (n, rest) => (.number n, rest)
      else .error (.next .expectedValue (b :: rest))

/-- The value that the text writes, with at most `levels` lists and objects open at once. -/
def parse? (levels : Nat) (s : String) : Except Fault Json :=
  readWhole (readJson levels) (Text.encode s)

end CampaignFetch.Json

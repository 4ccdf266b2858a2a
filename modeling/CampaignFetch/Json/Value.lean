import CampaignFetch.Number.Binary64

/-!
# JSON values

A number is an integer or a binary floating point number, and the two are never equal. An object is
the list of its entries in order, so a value that was read still shows repeated keys.

`Json.sorted` is the form without order: every object has its keys ascending by code point, each
once, with the last value that was given for it.
-/

namespace CampaignFetch

inductive Json.Number where
  | int (value : Int)
  | float (value : Number.Binary64)
  deriving DecidableEq, Repr

inductive Json where
  | null
  | bool (value : Bool)
  | number (value : Json.Number)
  | string (value : String)
  | array (items : List Json)
  | object (entries : List (String × Json))
  deriving Repr

namespace Json

def int (n : Int) : Json := .number (.int n)

def isNull : Json → Bool
  | .null => true
  | _ => false

/-- The text of a string value. -/
def string? : Json → Option String
  | .string s => some s
  | _ => none

def entries : Json → List (String × Json)
  | .object entries => entries
  | _ => []

/-! ## Order of keys -/

/-- Whether the first text comes before the second or is equal to it, by code points. -/
def keyLe : List Char → List Char → Bool
  | [], _ => true
  | _ :: _, [] => false
  | a :: as, b :: bs => a.toNat < b.toNat || (a.toNat = b.toNat && keyLe as bs)

/-- Inserts an entry into entries with ascending keys, replacing the entry with the same key. -/
def insertEntry (key : String) (value : Json) : List (String × Json) → List (String × Json)
  | [] => [(key, value)]
  | (k, v) :: rest =>
    if key = k then (key, value) :: rest
    else if keyLe key.toList k.toList then (key, value) :: (k, v) :: rest
    else (k, v) :: insertEntry key value rest

mutual

/-- The value with the keys of every object ascending, each once with its last value. -/
def sorted : Json → Json
  | .array items => .array (sortedItems items)
  | .object entries =>
    .object ((sortedEntries entries).foldl (fun acc e => insertEntry e.1 e.2 acc) [])
  | j => j

/-- The items of an array, each in sorted form. -/
def sortedItems : List Json → List Json
  | [] => []
  | j :: js => j.sorted :: sortedItems js

/-- The entries of an object in their order, each value in sorted form. -/
def sortedEntries : List (String × Json) → List (String × Json)
  | [] => []
  | (k, v) :: es => (k, v.sorted) :: sortedEntries es

end

end Json

end CampaignFetch

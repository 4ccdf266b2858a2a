import CampaignFetch.Text.CaseTable

/-!
# Lowercase text

Full Unicode lowercasing, character by character, with the one rule that looks at the context: a
capital sigma at the end of a word becomes the final form `ς`, everywhere else `σ`.

The end of a word is decided by the nearest characters that are not ignorable: the one before is
cased and the one after, if there is one, is not.
-/

namespace CampaignFetch.Text

def inRanges (ranges : List (Nat × Nat)) (n : Nat) : Bool :=
  ranges.any fun r => r.1 ≤ n && n ≤ r.2

/-- Whether a search for the neighbouring letter passes over the character. -/
def isCaseIgnorable (c : Char) : Bool := inRanges caseIgnorableRanges c.toNat

/-- Whether the character is a cased letter that a search for a letter stops at. -/
def isCased (c : Char) : Bool := inRanges casedRanges c.toNat

/-- Whether the first character that is not ignorable is a cased letter. -/
def reachesCased (cs : List Char) : Bool :=
  match cs.dropWhile isCaseIgnorable with
  | [] => false
  | c :: _ => isCased c

/-- Whether the run maps the code point. -/
def CaseRun.covers (r : CaseRun) (n : Nat) : Bool :=
  r.first ≤ n && n ≤ r.last && (n - r.first) % r.step = 0

/-- The lowercase form of a character that does not depend on its neighbours. -/
def lowerChar (c : Char) : List Char :=
  if c = '\u0130' then ['i', '\u0307']
  else match lowercaseRuns.find? fun r => r.covers c.toNat with
    | some r => [Char.ofNat (c.toNat + r.offset).toNat]
    | none => [c]

/-- The lowercase form of the characters `after`, which follow the reversed characters `before`. -/
def lowerChars (before : List Char) : (after : List Char) → List Char
  | [] => []
  | c :: after =>
    let low :=
      if c = 'Σ' then [if reachesCased before && !reachesCased after then 'ς' else 'σ']
      else lowerChar c
    low ++ lowerChars (c :: before) after

def lowercase (s : String) : String := String.ofList (lowerChars [] s.toList)

end CampaignFetch.Text

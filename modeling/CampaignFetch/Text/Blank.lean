/-!
# Blank characters and trimming

A character is blank when it has the Unicode property `White_Space`. The no-break spaces U+00A0 and
U+202F are blank, the zero-width space U+200B and the byte order mark U+FEFF are not.

* `trim` removes blank characters from both ends.
* `isBlankText` holds of a text that trims to nothing.
-/

namespace CampaignFetch.Text

/-- Inclusive ranges of the blank code points. -/
def blankRanges : List (Nat × Nat) := [
  (0x09, 0x0D), (0x20, 0x20), (0x85, 0x85), (0xA0, 0xA0), (0x1680, 0x1680), (0x2000, 0x200A),
  (0x2028, 0x2029), (0x202F, 0x202F), (0x205F, 0x205F), (0x3000, 0x3000)]

def isBlank (c : Char) : Bool :=
  blankRanges.any fun r => r.1 ≤ c.toNat && c.toNat ≤ r.2

/-- The characters without the blank ones at the front. -/
def trimStart (cs : List Char) : List Char := cs.dropWhile isBlank

/-- The characters without the blank ones at the back. -/
def trimEnd (cs : List Char) : List Char := (trimStart cs.reverse).reverse

/-- The text without the blank characters at both ends. -/
def trim (s : String) : String := String.ofList (trimEnd (trimStart s.toList))

def isBlankText (s : String) : Bool := s.toList.all isBlank

/-- The blank characters of ASCII are the space and the controls from tab to carriage return. -/
theorem isBlank_iff_of_ascii {c : Char} (h : c.toNat < 128) :
    isBlank c = true ↔ 9 ≤ c.toNat ∧ c.toNat ≤ 13 ∨ c.toNat = 32 := by
  simp only [isBlank, blankRanges, List.any_eq_true, Bool.and_eq_true, decide_eq_true_eq,
    List.mem_cons, List.not_mem_nil, or_false, exists_eq_or_imp, exists_eq_left]
  omega

end CampaignFetch.Text

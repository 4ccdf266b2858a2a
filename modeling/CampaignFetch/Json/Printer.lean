import CampaignFetch.Json.Value
import CampaignFetch.Number.Shortest
import CampaignFetch.Text.Integer

/-!
# Writing JSON

`Json.text` writes a value without any blanks and `Json.pretty` one entry or item per line, indented
by two spaces. Both keep the order of entries and write every character above the control
characters as it is, apart from the quote and the backslash.
-/

namespace CampaignFetch.Json

/-- The text of a number. A floating point number always shows a point or an exponent. -/
def Number.text : Number → String
  | .int n => Text.ofInt n
  | .float x => x.text

/-- One lower-case hexadecimal digit. -/
def hexDigit (n : Nat) : Char := Nat.digitChar n

/-- One character of a string. -/
def escaped (c : Char) : List Char :=
  match c with
  | '"' => ['\\', '"']
  | '\\' => ['\\', '\\']
  | '\x08' => ['\\', 'b']
  | '\x0c' => ['\\', 'f']
  | '\n' => ['\\', 'n']
  | '\r' => ['\\', 'r']
  | '\t' => ['\\', 't']
  | c =>
    if c.toNat < 0x20 then
      ['\\', 'u', '0', '0', hexDigit (c.toNat / 16), hexDigit (c.toNat % 16)]
    else [c]

/-- A string between its quotes. -/
def quote (s : String) : List Char := '"' :: s.toList.flatMap escaped ++ ['"']

/-! ## Compact -/

mutual

/-- The characters of a value. -/
def write : Json → List Char
  | .null => ['n', 'u', 'l', 'l']
  | .bool true => ['t', 'r', 'u', 'e']
  | .bool false => ['f', 'a', 'l', 's', 'e']
  | .number n => n.text.toList
  | .string s => quote s
  | .array items => '[' :: writeItems items ++ [']']
  | .object entries => '\x7b' :: writeEntries entries ++ ['\x7d']

/-- The items of an array, with commas between them. -/
def writeItems : List Json → List Char
  | [] => []
  | [j] => write j
  | j :: js => write j ++ ',' :: writeItems js

/-- The entries of an object, with commas between them. -/
def writeEntries : List (String × Json) → List Char
  | [] => []
  | [(k, v)] => quote k ++ ':' :: write v
  | (k, v) :: es => quote k ++ ':' :: write v ++ ',' :: writeEntries es

end

/-- The compact text of a value. -/
def text (j : Json) : String := String.ofList (write j)

/-! ## Indented -/

/-- A line break and the indentation of a level. -/
def newLine (level : Nat) : List Char := '\n' :: List.replicate (2 * level) ' '

mutual

/-- The characters of a value at a level of indentation. -/
def writePretty (level : Nat) : Json → List Char
  | .array [] => ['[', ']']
  | .array items => '[' :: writePrettyItems (level + 1) items ++ newLine level ++ [']']
  | .object [] => ['\x7b', '\x7d']
  | .object entries =>
    '\x7b' :: writePrettyEntries (level + 1) entries ++ newLine level ++ ['\x7d']
  | j => write j

/-- The items of an array, each on its line. -/
def writePrettyItems (level : Nat) : List Json → List Char
  | [] => []
  | [j] => newLine level ++ writePretty level j
  | j :: js => newLine level ++ writePretty level j ++ ',' :: writePrettyItems level js

/-- The entries of an object, each on its line. -/
def writePrettyEntries (level : Nat) : List (String × Json) → List Char
  | [] => []
  | [(k, v)] => newLine level ++ quote k ++ ':' :: ' ' :: writePretty level v
  | (k, v) :: es =>
    newLine level ++ quote k ++ ':' :: ' ' :: writePretty level v ++ ',' ::
      writePrettyEntries level es

end

/-- The indented text of a value. -/
def pretty (j : Json) : String := String.ofList (writePretty 0 j)

end CampaignFetch.Json

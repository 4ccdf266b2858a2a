/-!
# Targets of requests

A target is a path with a query after a question mark, and a fragment, which is dropped. The path
may follow a scheme and the name of a host. A target can also be the name of a host alone, which has
no path, or an asterisk.

* `Target.ofText?` reads a target in any of these forms.
* `isHost` tells what can name a host.
-/

namespace CampaignFetch.Http

/-! ## Paths and queries -/

/-- Whether the character is visible or not ASCII. -/
def isVisible (c : Char) : Bool := 33 ≤ c.toNat && c.toNat ≠ 127

/-- Whether the character may stand in a path. -/
def isPathChar (c : Char) : Bool := isVisible c && !"#<>?`".toList.contains c

/-- Whether the character may stand in a query. -/
def isQueryChar (c : Char) : Bool := isVisible c && !"\"#<>".toList.contains c

/-- A target without scheme, host and fragment. -/
structure Target where
  path : String
  query : Option String
  deriving DecidableEq, Repr

namespace Target

/-- The greatest number of bytes of a target. -/
def maxLength : Nat := 65534

/-- The target that begins with its path. -/
def ofPath? (cs : List Char) : Option Target :=
  let visible := cs.takeWhile (· ≠ '#')
  let path := visible.takeWhile (· ≠ '?')
  let query := (visible.dropWhile (· ≠ '?')).drop 1
  if path.all isPathChar && query.all isQueryChar then
    some {
      path := String.ofList path
      query := if visible.contains '?' then some (String.ofList query) else none }
  else none

/-- The target without a path. -/
def bare : Target := ⟨"", none⟩

end Target

/-! ## Schemes and hosts -/

/-- Whether the character may stand in a scheme. -/
def isSchemeChar (c : Char) : Bool := c.isAlphanum || "+-.".toList.contains c

/-- The greatest number of characters of a scheme. -/
def maxScheme : Nat := 64

/-- What follows the scheme and its two slashes, if there is a scheme. -/
def afterScheme? (cs : List Char) : Option (List Char) :=
  match cs.dropWhile isSchemeChar with
  | ':' :: '/' :: '/' :: rest => some rest
  | _ => none

/-- Whether the character may stand in the name of a host, a port and what is before a host. -/
def isHostChar (c : Char) : Bool := c.isAlphanum || "!$&'()*+,-.:;=@[]_~".toList.contains c

/-- What is known of a host when a part of it is read. -/
structure HostScan where
  /-- The colons that can still turn out to be before a port. -/
  colons : Nat
  opened : Bool
  closed : Bool
  /-- Whether there is an escape that nothing has excused. -/
  escape : Bool
  deriving DecidableEq, Repr

/-- The greatest number of colons between which nothing says what they are for. -/
def maxColons : Nat := 8

/-- What is known after one more character, if it may stand there. An at sign ends what is before
the host, where colons and escapes are free; brackets enclose colons. -/
def HostScan.next (s : HostScan) (c : Char) : Option HostScan :=
  if c = ':' then if maxColons ≤ s.colons then none else some { s with colons := s.colons + 1 }
  else if c = '[' then if s.escape || s.opened then none else some { s with opened := true }
  else if c = ']' then
    if !s.opened || s.closed then none else some ⟨0, s.opened, true, false⟩
  else if c = '@' then some { s with colons := 0, escape := false }
  else if c = '%' then some { s with escape := true }
  else if isHostChar c then some s
  else none

/-- Whether the characters name a host. -/
def isHost (cs : List Char) : Bool :=
  match cs.foldlM HostScan.next ⟨0, false, false, false⟩ with
  | some s => s.opened == s.closed && s.colons ≤ 1 && !s.escape && cs.getLast? ≠ some '@'
  | none => false

namespace Target

/-- The target after a scheme: a host, which cannot be left out, and a path, which can. -/
def ofHostAndPath? (cs : List Char) : Option Target :=
  let startsRest (c : Char) : Bool := "/?#".toList.contains c
  let host := cs.takeWhile fun c => !startsRest c
  if host.isEmpty || !isHost host then none
  else match cs.dropWhile fun c => !startsRest c with
    | '/' :: path => ofPath? ('/' :: path)
    | query => ofPath? ('/' :: query)

def ofText? (s : String) : Option Target :=
  if maxLength < s.utf8ByteSize then none
  else match s.toList with
    | [] => none
    | '/' :: rest => ofPath? ('/' :: rest)
    | ['*'] => some ⟨"*", none⟩
    | cs =>
      match afterScheme? cs with
      | some rest =>
        if maxScheme < (cs.takeWhile isSchemeChar).length then none else ofHostAndPath? rest
      | none => if isHost cs then some bare else none

end Target

end CampaignFetch.Http

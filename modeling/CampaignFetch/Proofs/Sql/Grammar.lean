import CampaignFetch.Proofs.Sql.Lexer

/-!
# The grammar of clauses

`Sql.Tree` are the derivations of an expression, level by level: casts bind tighter than `IN`, `IN`
tighter than `=`, `=` tighter than `AND` and `AND` tighter than `OR`; lists of expressions have
commas between them and parentheses hold one expression. Members of a chain are not nested, and `=`
has two sides only.

* `Tree.tokens` is what a derivation derives.
* `Tree.unique`: tokens are derived in at most one way, up to a rest that does not go on with the
  level.
* `ReadsAs`: a derivation of a whole text.
-/

namespace CampaignFetch.Sql

/-! ## Derivations -/

/-- The operators that link expressions, from the tightest to the loosest. -/
inductive Link where
  | equal
  | and
  | or
  | comma
  deriving DecidableEq

/-- The levels of expressions. -/
inductive Level where
  | atom
  | typed
  | membership
  /-- Expressions of a tighter level with a link between them, or a single one. -/
  | linked (link : Link)
  deriving DecidableEq

namespace Link

/-- The token of a link. -/
def token : Link → Token
  | equal => .equal
  | and => .and
  | or => .or
  | comma => .comma

/-- The level of what is linked. -/
abbrev member : Link → Level
  | equal => .membership
  | and => .linked .equal
  | or => .linked .and
  | comma => .linked .or

/-- The level of what comes after the first link. -/
abbrev others : Link → Level
  | equal => .membership
  | link => .linked link

end Link

/-- A derivation at a level. -/
inductive Tree : Level → Type where
  /-- A column after its table, both between double quotes. -/
  | column (table name : String) : Tree .atom
  | param (number : Nat) : Tree .atom
  | number (value : Nat) : Tree .atom
  | literal (text : String) : Tree .atom
  | call (function : String) (arguments : Tree (.linked .comma)) : Tree .atom
  | group (inner : Tree (.linked .or)) : Tree .atom
  /-- An atom with the casts after it. -/
  | typed (inner : Tree .atom) (casts : List String) : Tree .typed
  | plain (inner : Tree .typed) : Tree .membership
  | isIn (inner : Tree .typed) (items : Tree (.linked .comma)) : Tree .membership
  | one (link : Link) (inner : Tree link.member) : Tree (.linked link)
  | more (link : Link) (first : Tree link.member) (others : Tree link.others) : Tree (.linked link)

/-- The tokens of casts to the given types. -/
def castTokens (casts : List String) : List Token := casts.flatMap fun type => [.cast, .word type]

/-- The tokens that a derivation derives. -/
def Tree.tokens {l : Level} : Tree l → List Token
  | .column t n => [.name t, .dot, .name n]
  | .param k => [.param k]
  | .number n => [.number n]
  | .literal s => [.literal s]
  | .call f arguments => .word f :: .openParen :: (arguments.tokens ++ [.closeParen])
  | .group inner => .openParen :: (inner.tokens ++ [.closeParen])
  | .typed inner casts => inner.tokens ++ castTokens casts
  | .plain inner => inner.tokens
  | .isIn inner items => inner.tokens ++ .isIn :: .openParen :: (items.tokens ++ [.closeParen])
  | .one _ inner => inner.tokens
  | .more link first others => first.tokens ++ link.token :: others.tokens

/-- An expression of the loosest level. -/
abbrev Clause := Tree (.linked .or)

/-- The derivation is a reading of the whole text. -/
def ReadsAs (text : String) (clause : Clause) : Prop := lex text = some clause.tokens

/-! ## Unique readings -/

/-- How loose a level is. -/
def Level.rank : Level → Nat
  | .atom => 0
  | .typed => 1
  | .membership => 2
  | .linked .equal => 3
  | .linked .and => 4
  | .linked .or => 5
  | .linked .comma => 6

/-- The rank of the tightest level whose expressions may go on with the token. -/
def Token.rank : Token → Nat
  | .cast => 1
  | .isIn => 2
  | .equal => 3
  | .and => 4
  | .or => 5
  | .comma => 6
  | _ => 7

/-- The tokens do not go on with an expression of the level. -/
def Level.Stops (l : Level) (tokens : List Token) : Prop := ∀ t ∈ tokens.head?, l.rank < t.rank

theorem Level.stops_cons {l : Level} {t : Token} {ts : List Token} :
    l.Stops (t :: ts) ↔ l.rank < t.rank := by
  simp [Stops]

theorem Level.stops_atom (tokens : List Token) : Level.atom.Stops tokens := by
  intro t _
  cases t <;> simp [rank, Token.rank]

/-- What stops a level stops every tighter one. -/
theorem Level.Stops.tighter {k l : Level} {tokens : List Token} (h : l.Stops tokens)
    (hRank : k.rank ≤ l.rank) : k.Stops tokens :=
  fun t ht => Nat.lt_of_le_of_lt hRank (h t ht)

namespace Link

theorem rank_token (link : Link) : link.token.rank = (Level.linked link).rank := by
  cases link <;> rfl

theorem rank_member (link : Link) : link.member.rank < link.token.rank := by
  cases link <;> decide

theorem rank_others (link : Link) : link.others.rank ≤ (Level.linked link).rank := by
  cases link <;> decide

variable {link : Link}

theorem stops_token (tokens : List Token) : link.member.Stops (link.token :: tokens) :=
  Level.stops_cons.mpr link.rank_member

/-- An expression goes on with its own link. -/
theorem not_stops_token (tokens : List Token) :
    ¬ (Level.linked link).Stops (link.token :: tokens) := by
  rw [Level.stops_cons, link.rank_token]
  exact Nat.lt_irrefl _

theorem stops_member {tokens : List Token} (h : (Level.linked link).Stops tokens) :
    link.member.Stops tokens :=
  h.tighter (Nat.le_of_lt (link.rank_token ▸ link.rank_member))

end Link

theorem castTokens_unique {casts casts' : List String} {r r' : List Token}
    (hr : Level.typed.Stops r) (hr' : Level.typed.Stops r')
    (h : castTokens casts ++ r = castTokens casts' ++ r') : casts = casts' ∧ r = r' := by
  induction casts generalizing casts' with
  | nil =>
    cases casts' with
    | nil => exact ⟨rfl, h⟩
    | cons type rest =>
      have hHead : r = .cast :: .word type :: (castTokens rest ++ r') := h
      rw [hHead, Level.stops_cons] at hr
      -- what stops a typed expression does not begin with a cast
      exact absurd hr (by decide)
  | cons type rest ih =>
    cases casts' with
    | nil =>
      have hHead : .cast :: .word type :: (castTokens rest ++ r) = r' := h
      rw [← hHead, Level.stops_cons] at hr'
      exact absurd hr' (by decide)
    | cons type' rest' =>
      have hCons : Token.cast :: .word type :: (castTokens rest ++ r) =
          .cast :: .word type' :: (castTokens rest' ++ r') := h
      simp only [List.cons.injEq, Token.word.injEq, true_and] at hCons
      obtain ⟨rfl, hRest⟩ := hCons
      obtain ⟨rfl, rfl⟩ := ih hRest
      exact ⟨rfl, rfl⟩

namespace Tree

/-- The tokens of the derivation have no other one at its level, up to a rest that does not go on
with the level. -/
def Unique {l : Level} (t : Tree l) : Prop :=
  ∀ (t' : Tree l) {r r' : List Token}, l.Stops r → l.Stops r' →
    t.tokens ++ r = t'.tokens ++ r' → t = t' ∧ r = r'

/-- What stands in parentheses is unique together with what comes after them. -/
theorem Unique.enclosed {link : Link} {inner inner' : Tree (.linked link)} (hInner : inner.Unique)
    {r r' : List Token}
    (h : (inner.tokens ++ [.closeParen]) ++ r = (inner'.tokens ++ [.closeParen]) ++ r') :
    inner = inner' ∧ r = r' := by
  have hClose : ∀ ts : List Token, (Level.linked link).Stops (.closeParen :: ts) := fun ts =>
    Level.stops_cons.mpr (by cases link <;> decide)
  rw [List.append_assoc, List.append_assoc] at h
  obtain ⟨hSame, hRest⟩ := hInner inner' (hClose r) (hClose r') h
  exact ⟨hSame, (List.cons.inj hRest).2⟩

theorem unique_call {function : String} {arguments : Tree (.linked .comma)}
    (hArguments : arguments.Unique) : (call function arguments).Unique := by
  intro t' r r' _ _ h
  cases t' with
  | call function' arguments' =>
    obtain ⟨hFunction, hBehind⟩ := List.cons.inj h
    obtain ⟨rfl, rfl⟩ := hArguments.enclosed (List.cons.inj hBehind).2
    exact ⟨congrArg (call · _) (Token.word.inj hFunction), rfl⟩
  | _ => simp [tokens] at h

theorem unique_group {inner : Tree (.linked .or)} (hInner : inner.Unique) :
    (group inner).Unique := by
  intro t' r r' _ _ h
  cases t' with
  | group inner' =>
    obtain ⟨rfl, rfl⟩ := hInner.enclosed (List.cons.inj h).2
    exact ⟨rfl, rfl⟩
  | _ => simp [tokens] at h

theorem unique_typed {inner : Tree .atom} {casts : List String} (hInner : inner.Unique) :
    (typed inner casts).Unique := by
  intro t' r r' hr hr' h
  cases t' with
  | typed inner' casts' =>
    simp only [tokens, List.append_assoc] at h
    obtain ⟨rfl, hCasts⟩ := hInner inner' (Level.stops_atom _) (Level.stops_atom _) h
    obtain ⟨rfl, rfl⟩ := castTokens_unique hr hr' hCasts
    exact ⟨rfl, rfl⟩

theorem unique_plain {inner : Tree .typed} (hInner : inner.Unique) : (plain inner).Unique := by
  intro t' r r' hr hr' h
  have hStops := hr.tighter (k := .typed) (by decide)
  cases t' with
  | plain inner' =>
    obtain ⟨rfl, rfl⟩ := hInner inner' hStops (hr'.tighter (by decide)) h
    exact ⟨rfl, rfl⟩
  | isIn inner' items' =>
    simp only [tokens, List.append_assoc] at h
    obtain ⟨-, rfl⟩ := hInner inner' hStops (Level.stops_cons.mpr (by decide)) h
    exact absurd (Level.stops_cons.mp hr) (by decide)

theorem unique_isIn {inner : Tree .typed} {items : Tree (.linked .comma)} (hInner : inner.Unique)
    (hItems : items.Unique) : (isIn inner items).Unique := by
  intro t' r r' hr hr' h
  have hIn : ∀ ts, Level.typed.Stops (.isIn :: ts) := fun ts => Level.stops_cons.mpr (by decide)
  cases t' with
  | plain inner' =>
    simp only [tokens, List.append_assoc] at h
    obtain ⟨-, rfl⟩ := hInner inner' (hIn _) (hr'.tighter (by decide)) h
    exact absurd (Level.stops_cons.mp hr') (by decide)
  | isIn inner' items' =>
    rw [tokens, tokens, List.append_assoc, List.append_assoc] at h
    obtain ⟨rfl, hBehind⟩ := hInner inner' (hIn _) (hIn _) h
    obtain ⟨rfl, rfl⟩ := hItems.enclosed (List.cons.inj (List.cons.inj hBehind).2).2
    exact ⟨rfl, rfl⟩

theorem unique_one {link : Link} {inner : Tree link.member} (hInner : inner.Unique) :
    (one link inner).Unique := by
  intro t' r r' hr hr' h
  cases t' with
  | one _ inner' =>
    obtain ⟨rfl, rfl⟩ := hInner inner' (Link.stops_member hr) (Link.stops_member hr') h
    exact ⟨rfl, rfl⟩
  | more _ first' others' =>
    simp only [tokens, List.append_assoc] at h
    obtain ⟨-, rfl⟩ := hInner first' (Link.stops_member hr) (Link.stops_token _) h
    exact (Link.not_stops_token _ hr).elim

theorem unique_more {link : Link} {first : Tree link.member} {others : Tree link.others}
    (hFirst : first.Unique) (hOthers : others.Unique) : (more link first others).Unique := by
  intro t' r r' hr hr' h
  cases t' with
  | one _ inner' =>
    simp only [tokens, List.append_assoc] at h
    obtain ⟨-, rfl⟩ := hFirst inner' (Link.stops_token _) (Link.stops_member hr') h
    exact (Link.not_stops_token _ hr').elim
  | more _ first' others' =>
    simp only [tokens, List.append_assoc] at h
    obtain ⟨rfl, hBehind⟩ := hFirst first' (Link.stops_token _) (Link.stops_token _) h
    obtain ⟨rfl, rfl⟩ := hOthers others' (hr.tighter link.rank_others)
      (hr'.tighter link.rank_others) (List.cons.inj hBehind).2
    exact ⟨rfl, rfl⟩

/-- Tokens are derived in at most one way. -/
theorem unique {l : Level} (t : Tree l) : t.Unique := by
  induction t with
  | column table name => intro t' _ _ _ _ h; cases t' <;> simp_all [tokens]
  | param number => intro t' _ _ _ _ h; cases t' <;> simp_all [tokens]
  | number value => intro t' _ _ _ _ h; cases t' <;> simp_all [tokens]
  | literal text => intro t' _ _ _ _ h; cases t' <;> simp_all [tokens]
  | call function arguments ih => exact unique_call ih
  | group inner ih => exact unique_group ih
  | typed inner casts ih => exact unique_typed ih
  | plain inner ih => exact unique_plain ih
  | isIn inner items ihInner ihItems => exact unique_isIn ihInner ihItems
  | one link inner ih => exact unique_one ih
  | more link first others ihFirst ihOthers => exact unique_more ihFirst ihOthers

/-- A text has at most one reading. -/
theorem readsAs_unique {text : String} {c d : Clause} (hc : ReadsAs text c) (hd : ReadsAs text d) :
    c = d := by
  have hStops : (Level.linked .or).Stops [] := fun t ht => by cases ht
  have hTokens : c.tokens = d.tokens := Option.some.inj (hc.symm.trans hd)
  exact (c.unique d hStops hStops (by rw [hTokens])).1

end Tree

end CampaignFetch.Sql

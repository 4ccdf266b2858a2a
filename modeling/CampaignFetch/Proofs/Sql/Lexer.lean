import CampaignFetch.Proofs.IntegerText

/-!
# The tokens of a clause

A clause is cut into tokens from left to right, each as long as possible. Names stand between double
quotes and literals between single ones, with a doubled quote for one of the text; words are read
without regard to case.

* `Sql.lex` cuts a list of characters.
* `Sql.Spells` says that characters give certain tokens whatever follows them, if it begins with a
  character that ends every token. Spellings are put together by `Spells.append`.
-/

namespace CampaignFetch.Sql

/-- A token of a clause. -/
inductive Token where
  /-- An identifier between double quotes. -/
  | name (text : String)
  | word (text : String)
  | and
  | or
  | isIn
  /-- A numbered placeholder. -/
  | param (number : Nat)
  | number (value : Nat)
  /-- A text between single quotes. -/
  | literal (text : String)
  | openParen
  | closeParen
  | comma
  | dot
  | equal
  | cast
  deriving DecidableEq, Repr

/-! ## Scanning -/

/-- What has been read of the present token. -/
inductive Scan where
  /-- No token has begun. -/
  | start
  /-- A token that cannot go on. -/
  | mark (token : Token)
  | word (read : List Char)
  | number (digits : List Char)
  | dollar
  | param (digits : List Char)
  | name (read : List Char)
  /-- A quote inside or at the end of a name. -/
  | nameQuote (read : List Char)
  | literal (read : List Char)
  /-- A quote inside or at the end of a literal. -/
  | literalQuote (read : List Char)
  | colon

/-- Whether the character goes on with a word. -/
def isWordChar (c : Char) : Bool := c.isAlphanum || c = '_'

/-- The token of a word: some words are operators. -/
def wordToken (read : List Char) : Token :=
  match String.ofList (read.map Char.toLower) with
  | "and" => .and
  | "or" => .or
  | "in" => .isIn
  | text => .word text

namespace Scan

/-- The scan after the first character of a token, or after a blank. -/
def begin? (c : Char) : Option Scan :=
  match c with
  | '"' => some (.name [])
  | '\'' => some (.literal [])
  | '$' => some .dollar
  | '(' => some (.mark .openParen)
  | ')' => some (.mark .closeParen)
  | ',' => some (.mark .comma)
  | '.' => some (.mark .dot)
  | '=' => some (.mark .equal)
  | ':' => some .colon
  | c =>
    if Text.isBlank c then some .start
    else if c.isDigit then some (.number [c])
    else if isWordChar c then some (.word [c])
    else none

/-- The scan after a further character of the present token, if the character belongs to it. -/
def extend? (s : Scan) (c : Char) : Option Scan :=
  match s with
  | .start => none
  | .mark _ => none
  | .word read => if isWordChar c then some (.word (read ++ [c])) else none
  | .number digits => if c.isDigit then some (.number (digits ++ [c])) else none
  | .dollar => if c.isDigit then some (.param [c]) else none
  | .param digits => if c.isDigit then some (.param (digits ++ [c])) else none
  | .name read => some (if c = '"' then .nameQuote read else .name (read ++ [c]))
  | .nameQuote read => if c = '"' then some (.name (read ++ ['"'])) else none
  | .literal read => some (if c = '\'' then .literalQuote read else .literal (read ++ [c]))
  | .literalQuote read => if c = '\'' then some (.literal (read ++ ['\''])) else none
  | .colon => if c = ':' then some (.mark .cast) else none

/-- The token that has been read, if it is complete. -/
def tokens? : Scan → Option (List Token)
  | .start => some []
  | .mark token => some [token]
  | .word read => some [wordToken read]
  | .number digits => some [.number (Nat.ofDigitChars 10 digits 0)]
  | .param digits => some [.param (Nat.ofDigitChars 10 digits 0)]
  | .nameQuote read => some [.name (String.ofList read)]
  | .literalQuote read => some [.literal (String.ofList read)]
  | .dollar | .name _ | .literal _ | .colon => none

/-- The tokens of the characters after a scan. -/
def lex (s : Scan) : List Char → Option (List Token)
  | [] => s.tokens?
  | c :: cs =>
    match s.extend? c with
    | some next => next.lex cs
    | none => do
      let done ← s.tokens?
      let next ← begin? c
      return done ++ (← next.lex cs)

end Scan

/-- The tokens of a text. -/
def lex (text : String) : Option (List Token) := Scan.start.lex text.toList

/-! ## Spellings -/

/-- The characters that end every token before them. -/
def separators : List Char := [' ', '(', ')', ',', '.', ':']

theorem not_isWordChar_of_mem_separators {c : Char} (h : c ∈ separators) :
    isWordChar c = false := by
  have hAll : (separators.all fun c => !isWordChar c) = true := by decide
  simpa using List.all_eq_true.mp hAll c h

theorem not_isDigit_of_mem_separators {c : Char} (h : c ∈ separators) : c.isDigit = false := by
  have hAll : (separators.all fun c => !c.isDigit) = true := by decide
  simpa using List.all_eq_true.mp hAll c h

/-- The characters end whatever token is before them. -/
def Separated (cs : List Char) : Prop := ∀ c ∈ cs.head?, c ∈ separators

/-- The characters give the tokens, whatever follows that ends the last of them. -/
def Spells (cs : List Char) (tokens : List Token) : Prop :=
  ∀ rest, Separated rest → Scan.start.lex (cs ++ rest) = (Scan.start.lex rest).map (tokens ++ ·)

namespace Scan

theorem lex_start_cons (c : Char) (cs : List Char) :
    start.lex (c :: cs) = (begin? c).bind fun next => next.lex cs := by
  simp [lex, extend?, tokens?]

/-- A complete token ends where what follows does not belong to it. -/
theorem lex_of_complete {s : Scan} {tokens : List Token} (hTokens : s.tokens? = some tokens)
    (rest : List Char) (hEnd : ∀ c ∈ rest.head?, s.extend? c = none) :
    s.lex rest = (start.lex rest).map (tokens ++ ·) := by
  cases rest with
  | nil =>
    rw [lex, hTokens]
    simp [lex, tokens?]
  | cons c cs =>
    rw [lex_start_cons, lex, hEnd c rfl, hTokens]
    cases begin? c with
    | none => rfl
    | some next => cases hNext : next.lex cs <;> simp [hNext]

/-- Reading on in a token that every one of the characters belongs to. -/
theorem lex_append {scan : List Char → Scan} {cs : List Char}
    (hExtend : ∀ read, ∀ c ∈ cs, (scan read).extend? c = some (scan (read ++ [c])))
    (read rest : List Char) : (scan read).lex (cs ++ rest) = (scan (read ++ cs)).lex rest := by
  induction cs generalizing read with
  | nil => simp
  | cons c cs ih =>
    rw [List.cons_append, lex, hExtend read c List.mem_cons_self]
    simpa using ih (fun r d hd => hExtend r d (List.mem_cons_of_mem _ hd)) (read ++ [c])

end Scan

theorem Spells.nil : Spells [] [] := fun rest _ => by simp

/-- Spellings follow one another when the second begins with a character that ends every token. -/
theorem Spells.append {cs ds : List Char} {ts us : List Token} {d : Char} (hc : Spells cs ts)
    (hd : Spells (d :: ds) us) (hSeparator : d ∈ separators) :
    Spells (cs ++ d :: ds) (ts ++ us) := by
  intro rest hRest
  have hNext : Separated (d :: ds ++ rest) := by simpa [Separated] using hSeparator
  rw [List.append_assoc, hc _ hNext, hd _ hRest, Option.map_map]
  simp [Function.comp_def, List.append_assoc]

/-- A blank adds no token. -/
theorem Spells.blank {cs : List Char} {ts : List Token} (h : Spells cs ts) :
    Spells (' ' :: cs) ts := by
  intro rest hRest
  rw [List.cons_append, Scan.lex_start_cons, ← h rest hRest]
  rfl

/-- A character that is a token of its own adds this token. -/
theorem Spells.mark {c : Char} {token : Token} (hBegin : Scan.begin? c = some (.mark token))
    {cs : List Char} {ts : List Token} (h : Spells cs ts) : Spells (c :: cs) (token :: ts) := by
  intro rest hRest
  have hComplete := Scan.lex_of_complete (s := .mark token) rfl (cs ++ rest)
    (fun _ _ => rfl)
  rw [List.cons_append, Scan.lex_start_cons, hBegin, Option.bind_some, hComplete, h rest hRest,
    Option.map_map]
  rfl

/-- A cast is two colons. -/
theorem Spells.cast {cs : List Char} {ts : List Token} (h : Spells cs ts) :
    Spells (':' :: ':' :: cs) (.cast :: ts) := by
  intro rest hRest
  have hComplete := Scan.lex_of_complete (s := .mark .cast) rfl (cs ++ rest)
    (fun _ _ => rfl)
  have hColons : Scan.start.lex (':' :: ':' :: (cs ++ rest)) =
      (Scan.mark .cast).lex (cs ++ rest) := by
    rw [Scan.lex_start_cons]
    rfl
  rw [List.cons_append, List.cons_append, hColons, hComplete, h rest hRest, Option.map_map]
  rfl

/-- A token is spelled when it is complete after its characters and no separator belongs to it. -/
theorem Spells.token {cs : List Char} {s : Scan} {tokens : List Token}
    (hLex : ∀ rest, Scan.start.lex (cs ++ rest) = s.lex rest) (hTokens : s.tokens? = some tokens)
    (hEnd : ∀ c ∈ separators, s.extend? c = none) : Spells cs tokens := by
  intro rest hRest
  rw [hLex, Scan.lex_of_complete hTokens rest fun c hc => hEnd c (hRest c hc)]

/-- A token that each of its characters is a part of. -/
theorem Spells.run {scan : List Char → Scan} {c : Char} {cs : List Char} {tokens : List Token}
    (hBegin : Scan.begin? c = some (scan [c]))
    (hExtend : ∀ read, ∀ d ∈ cs, (scan read).extend? d = some (scan (read ++ [d])))
    (hTokens : (scan (c :: cs)).tokens? = some tokens)
    (hEnd : ∀ d ∈ separators, (scan (c :: cs)).extend? d = none) : Spells (c :: cs) tokens := by
  refine .token (fun rest => ?_) hTokens hEnd
  rw [List.cons_append, Scan.lex_start_cons, hBegin]
  exact Scan.lex_append hExtend [c] rest

theorem Spells.word {c : Char} {cs : List Char} (hBegin : Scan.begin? c = some (.word [c]))
    (hWord : cs.all isWordChar = true) : Spells (c :: cs) [wordToken (c :: cs)] := by
  rw [List.all_eq_true] at hWord
  refine .run hBegin (fun read d hd => by simp [Scan.extend?, hWord d hd]) rfl fun d hd => ?_
  simp [Scan.extend?, not_isWordChar_of_mem_separators hd]

theorem Spells.number {c : Char} (hBegin : Scan.begin? c = some (.number [c])) :
    Spells [c] [.number (Nat.ofDigitChars 10 [c] 0)] := by
  refine .run hBegin (by simp) rfl fun d hd => ?_
  simp [Scan.extend?, not_isDigit_of_mem_separators hd]

/-- A placeholder is spelled by a dollar sign and the digits of its number. -/
theorem Spells.param (n : Nat) : Spells ('$' :: Nat.toDigits 10 n) [.param n] := by
  have hDigits := Text.isDigit_toDigits n
  have hValue : Nat.ofDigitChars 10 (Nat.toDigits 10 n) 0 = n := Nat.ofDigitChars_ten_toDigits
  cases hText : Nat.toDigits 10 n with
  | nil => exact absurd hText Nat.toDigits_ne_nil
  | cons c cs =>
    rw [hText] at hDigits hValue
    refine .token (s := .param (c :: cs)) (fun rest => ?_) (by simp [Scan.tokens?, hValue])
      fun d hd => ?_
    · have hFirst : Scan.start.lex ('$' :: c :: (cs ++ rest)) =
          (Scan.param [c]).lex (cs ++ rest) := by
        rw [Scan.lex_start_cons]
        simp [Scan.begin?, Scan.lex, Scan.extend?, hDigits c List.mem_cons_self]
      rw [List.cons_append, List.cons_append, hFirst]
      exact Scan.lex_append (fun read d hd => by
        simp [Scan.extend?, hDigits d (List.mem_cons_of_mem _ hd)]) [c] rest
    · simp [Scan.extend?, not_isDigit_of_mem_separators hd]

/-- A token between two quotes, when it has no such quote itself. -/
theorem Spells.quoted {quote : Char} (within closed : List Char → Scan) {cs : List Char}
    {tokens : List Token} (hBegin : Scan.begin? quote = some (within []))
    (hExtend : ∀ read c, (within read).extend? c =
      some (if c = quote then closed read else within (read ++ [c])))
    (hTokens : (closed cs).tokens? = some tokens)
    (hEnd : ∀ d, d ≠ quote → (closed cs).extend? d = none) (hSeparator : quote ∉ separators)
    (hQuote : quote ∉ cs) : Spells (quote :: cs ++ [quote]) tokens := by
  have hWithin : ∀ read, ∀ d ∈ cs, (within read).extend? d = some (within (read ++ [d])) := by
    intro read d hd
    have hNe : d ≠ quote := fun hEq => hQuote (hEq ▸ hd)
    rw [hExtend, if_neg hNe]
  refine .token (fun rest => ?_) hTokens fun d hd => hEnd d fun hEq => hSeparator (hEq ▸ hd)
  rw [List.cons_append, List.cons_append, Scan.lex_start_cons, hBegin, List.append_assoc,
    Option.bind_some, Scan.lex_append hWithin, List.nil_append, List.singleton_append, Scan.lex,
    hExtend, if_pos rfl]

theorem Spells.name {cs : List Char} (hQuote : '"' ∉ cs) :
    Spells ('"' :: cs ++ ['"']) [.name (String.ofList cs)] :=
  .quoted .name .nameQuote rfl (fun _ _ => rfl) rfl
    (fun d hd => by simp [Scan.extend?, hd]) (by decide) hQuote

theorem Spells.literal {cs : List Char} (hQuote : '\'' ∉ cs) :
    Spells ('\'' :: cs ++ ['\'']) [.literal (String.ofList cs)] :=
  .quoted .literal .literalQuote rfl (fun _ _ => rfl) rfl
    (fun d hd => by simp [Scan.extend?, hd]) (by decide) hQuote

theorem Spells.parens {cs : List Char} {ts : List Token} (h : Spells cs ts) :
    Spells ('(' :: (cs ++ [')'])) (.openParen :: (ts ++ [.closeParen])) :=
  .mark rfl (h.append (.mark rfl .nil) (by decide))

end CampaignFetch.Sql

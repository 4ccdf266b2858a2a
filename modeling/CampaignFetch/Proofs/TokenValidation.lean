import CampaignFetch.Http.Authentication
import CampaignFetch.Proofs.Base64Text
import CampaignFetch.Proofs.Json.ReadBack
import CampaignFetch.Proofs.Results
import CampaignFetch.Proofs.TokenLifetimes

/-!
# Tokens from their issue to their expiry

A token that is signed with a secret is accepted with this secret, as what it claims, until its
leeway is over, and then refused as expired.

* `Token.splitLast?_append`: the parts of a token are found again.
* `Claims.readsBack`, `Token.readsBack_registered`: the document of claims is read as the claims and
  as the ones that are checked.
* `Token.check_tokenBytes`: what becomes of a signed token at any time.
* `issued_tokens_validate`: from the issue of the claims to the caller of a request.
-/

namespace CampaignFetch

open Json

/-! ## Parts -/

namespace Token

theorem splitLast?_append {separator : UInt8} {after : Bytes} (h : separator ∉ after)
    (before : Bytes) : splitLast? separator (before ++ separator :: after) =
      some (before, after) := by
  have hAfter : ∀ b ∈ after.reverse, decide (b ≠ separator) = true := by
    intro b hb
    refine decide_eq_true fun hEq => h ?_
    exact hEq ▸ List.mem_reverse.mp hb
  have hReverse : (before ++ separator :: after).reverse =
      after.reverse ++ separator :: before.reverse := by simp
  rw [splitLast?, hReverse, List.dropWhile_append_of_pos hAfter,
    List.takeWhile_append_of_pos hAfter]
  simp

theorem point_not_mem_encode (bs : Bytes) : point ∉ Text.Base64.encode bs := by
  intro hPoint
  obtain ⟨-, -, hNe⟩ := Text.Base64.range_of_mem_encode hPoint
  exact hNe rfl

theorem unpack_part (document : Json) : unpack (part document) = .ok document.bytes := by
  rw [unpack, part, Text.Base64.decode_encode, encode_text]
  rfl

theorem readPart_bytes {α : Type} {read : Reader α} {document : Json} {a : α}
    (h : ReadsBack read document.bytes a) : readPart read document.bytes = .ok a := by
  rw [readPart, h.readWhole]
  rfl

/-! ## Headers -/

theorem readsBack_header : ReadsBack readHeader header.bytes true := by
  have hAlgorithm : ReadsBack (readVariant algorithms) (bytes (.string "HS256")) true :=
    readsBack_variant rfl
  refine readsBack_record ?_ (by decide) (by decide)
  refine .cons rfl (ReadsBack.put (readsBack_some_text "JWT")) ?_
  exact .cons rfl (ReadsBack.put hAlgorithm) (.nil true)

end Token

/-! ## Claims -/

namespace Claims

/-- The times are ones of sixty-four bits, and the expiry does not come before 1970. -/
structure Dated (c : Claims) : Prop where
  expires : 0 ≤ c.expires
  expiresFits : Text.fitsInt64 c.expires = true
  issuedFits : Text.fitsInt64 c.issued = true

variable {c : Claims}

theorem dated_of_issue {now : Int} {subject : String} {hours : Nat} (hNow : 0 ≤ now)
    (h : issue now subject hours = .ok c) : c.Dated ∧ c = ⟨subject, now + 3600 * hours, now⟩ := by
  have hBegin : Calendar.beginOfCalendar ≤ 0 := by decide
  have hEnd : Calendar.endOfCalendar ≤ Text.int64Max := by decide
  rw [issue_eq (Int.le_trans hBegin hNow)] at h
  split at h
  · rename_i hBefore
    cases h
    have hMin : Text.int64Min ≤ 0 := by decide
    refine ⟨⟨?_, ?_, ?_⟩, rfl⟩
    · change 0 ≤ now + 3600 * (hours : Int)
      omega
    · exact fitsInt64_iff.mpr ⟨by dsimp only; omega, by dsimp only; omega⟩
    · exact fitsInt64_iff.mpr ⟨by dsimp only; omega, by dsimp only; omega⟩
  · cases h

theorem readsBack (h : c.Dated) : ReadsBack read c.toJson.bytes c := by
  refine readsBack_record ?_ (by decide : ["sub", "exp", "iat"].Nodup)
    (by decide : missing? fields ["iat", "exp", "sub"] = none)
  refine .cons rfl (ReadsBack.put (readsBack_text c.subject)) ?_
  refine .cons rfl (ReadsBack.put (readsBack_int64 h.expiresFits)) ?_
  exact .cons rfl (ReadsBack.put (readsBack_int64 h.issuedFits)) (.nil c)

end Claims

namespace Token

/-! ## Registered claims -/

theorem readsBack_subject (s : String) : ReadsBack readSubject (bytes (.string s)) (some s) :=
  (readsBack_some_text s).leniently.map Option.join

theorem readsBack_time {n : Int} (h : Text.fitsInt64 n = true) :
    ReadsBack readTime (bytes (int n)) (time? (int n)) where
  begins := begins_int n
  reads rest hRest := by
    have hLenient := (readsBack_json (@Plain.int 0 n h)).leniently.map (·.bind time?)
    have hRead := hLenient.reads rest hRest
    obtain ⟨b, bs, hBytes, hFront⟩ := front_int n
    have hNe : ∀ c, c ≠ Ascii.minus → Ascii.isDigit c = false → b ≠ c := by
      intro c hMinus hDigit
      rcases hFront with rfl | hFront
      · exact hMinus.symm
      · exact ne_of_isDigit hFront hDigit
    rw [readTime, (begins_int n).skipBlank]
    rw [hBytes, List.cons_append] at hRead ⊢
    split
    · rename_i hOpen
      cases hOpen
      exact absurd rfl (hNe Ascii.openBracket (by decide) (by decide))
    · rename_i hOpen
      cases hOpen
      exact absurd rfl (hNe Ascii.openBrace (by decide) (by decide))
    · exact hRead

variable {c : Claims}

/-- The claims that are checked are read from the same document, whose time of issue is skipped. -/
theorem readsBack_registered (h : c.Dated) :
    ReadsBack readRegistered c.toJson.bytes ⟨some c.expires, false⟩ := by
  have hTime := readsBack_time h.expiresFits
  have hExpires : time? (int c.expires) = some c.expires := if_neg (Int.not_lt.mpr h.expires)
  rw [hExpires] at hTime
  refine readsBack_record_among ?_ (by decide : ["sub", "exp"].Nodup)
    (by decide : missing? registeredFields ["exp", "sub"] = none)
  refine .field rfl (ReadsBack.put (readsBack_subject c.subject)) ?_
  refine .field rfl (ReadsBack.put hTime) ?_
  exact .other rfl (skips_int c.issued) (.nil _)

end Token

/-! ## Signed claims -/

/-- The bytes of the token of claims. -/
def Claims.tokenBytes (c : Claims) (secret : String) : Bytes :=
  Token.signedParts c ++ Token.point :: Token.signature secret (Token.signedParts c)

/-- The token of claims. -/
def Claims.tokenText (c : Claims) (secret : String) : String :=
  Text.decodeLossy (c.tokenBytes secret)

namespace Token

variable {c : Claims} (secret : String)

theorem check_tokenBytes (h : c.Dated) (now : Int) :
    check secret now (c.tokenBytes secret) =
      if now - leeway ≤ c.expires then .ok c else .error .expired := by
  have hToken : splitLast? point (c.tokenBytes secret) =
      some (signedParts c, signature secret (signedParts c)) :=
    splitLast?_append (point_not_mem_encode _) _
  have hSigned : splitLast? point (signedParts c) = some (part header, part c.toJson) :=
    splitLast?_append (point_not_mem_encode _) _
  have hHeader := readPart_bytes readsBack_header
  have hClaims := readPart_bytes (Claims.readsBack h)
  have hRegistered := readPart_bytes (readsBack_registered h)
  simp only [check, hToken, hSigned, unpack_part, hHeader, hClaims, hRegistered, bind, Except.bind,
    Bool.not_true, Bool.false_eq_true, if_false, ne_eq, not_true_eq_false]
  by_cases hTime : now - leeway ≤ c.expires
  · rw [if_pos hTime, if_neg (Int.not_lt.mpr hTime)]
    rfl
  · rw [if_neg hTime, if_pos (Int.not_le.mp hTime)]
    rfl

theorem range_of_mem_tokenBytes {b : UInt8} (h : b ∈ c.tokenBytes secret) :
    0x2D ≤ b.toNat ∧ b.toNat ≤ 0x7A := by
  have hPoint : 0x2D ≤ point.toNat ∧ point.toNat ≤ 0x7A := by decide
  have hPart : ∀ bs, b ∈ Text.Base64.encode bs → 0x2D ≤ b.toNat ∧ b.toNat ≤ 0x7A := by
    intro bs hMem
    obtain ⟨hLow, hHigh, -⟩ := Text.Base64.range_of_mem_encode hMem
    exact ⟨hLow, hHigh⟩
  simp only [Claims.tokenBytes, signedParts, List.mem_append, List.mem_cons] at h
  rcases h with (h | rfl | h) | rfl | h
  · exact hPart _ h
  · exact hPoint
  · exact hPart _ h
  · exact hPoint
  · exact hPart _ h

theorem ascii_tokenBytes : ∀ b ∈ c.tokenBytes secret, b.toNat < 0x80 := fun _ hb =>
  Nat.lt_of_le_of_lt (range_of_mem_tokenBytes secret hb).2 (by decide)

theorem toList_tokenText :
    (c.tokenText secret).toList = (c.tokenBytes secret).map fun b => Char.ofNat b.toNat := by
  rw [Claims.tokenText, Text.decodeLossy_ascii (ascii_tokenBytes secret), String.toList_ofList]

variable {secret}
variable (hSecret : secret ≠ "")

include hSecret

theorem sign_eq (c : Claims) : c.sign secret = .ok (c.tokenText secret) := by
  have hEmpty : ¬ secret.isEmpty = true := fun hNil => hSecret (String.isEmpty_iff.mp hNil)
  rw [Claims.sign, if_neg hEmpty]
  rfl

theorem validate_tokenText (h : c.Dated) (now : Int) :
    validate secret now (c.tokenText secret) =
      if now - leeway ≤ c.expires then .ok c else .error (.invalid "ExpiredSignature") := by
  have hEmpty : ¬ secret.isEmpty = true := fun hNil => hSecret (String.isEmpty_iff.mp hNil)
  have hBytes : Text.encode (c.tokenText secret) = c.tokenBytes secret :=
    Text.encode_decodeLossy_ascii (ascii_tokenBytes secret)
  rw [validate, if_neg hEmpty, hBytes, check_tokenBytes secret h]
  split <;> rfl

end Token

/-! ## Tokens in requests -/

namespace Http

theorem afterFront?_append (front rest : String) :
    afterFront? front (front ++ rest) = some rest := by
  have hPrefix : front.toList.isPrefixOf (front ++ rest).toList = true := by
    rw [String.toList_append]
    exact List.isPrefixOf_iff_prefix.mpr (List.prefix_append _ _)
  rw [afterFront?, if_pos hPrefix, String.toList_append, ← String.length_toList, List.drop_left,
    String.ofList_toList]

theorem isPlain_append (s s' : String) : isPlain (s ++ s') = (isPlain s && isPlain s') := by
  rw [isPlain, String.toList_append, List.all_append]
  rfl

theorem Request.token_of_bearer {r : Request} {token : String}
    (hHeader : r.header? "authorization" = some (bearer ++ token)) (hPlain : isPlain token = true)
    (hBlank : Text.isBlankText token = false) : r.token = .ok token := by
  have hBearer : isPlain bearer = true := by decide
  have hValue : isPlain (bearer ++ token) = true := by rw [isPlain_append, hBearer, hPlain]; rfl
  simp only [Request.token, hHeader, hValue, afterFront?_append, hBlank, Bool.not_true,
    Bool.false_eq_true, if_false]

theorem isPlain_tokenText (c : Claims) (secret : String) :
    isPlain (c.tokenText secret) = true := by
  rw [isPlain, Token.toList_tokenText, List.all_eq_true]
  intro char hChar
  obtain ⟨b, hb, rfl⟩ := List.mem_map.mp hChar
  obtain ⟨hLow, hHigh⟩ := Token.range_of_mem_tokenBytes secret hb
  have hVisible : 32 ≤ b.toNat ∧ b.toNat < 127 := by omega
  simp only [Text.toNat_ofNat_ascii (Token.ascii_tokenBytes secret b hb), Bool.or_eq_true,
    Bool.and_eq_true, decide_eq_true_eq]
  exact .inr hVisible

/-- There is a point in every token, which is not blank. -/
theorem not_isBlankText_tokenText (c : Claims) (secret : String) :
    Text.isBlankText (c.tokenText secret) = false := by
  have hPoint : Token.point ∈ c.tokenBytes secret :=
    List.mem_append_right _ List.mem_cons_self
  rw [Text.isBlankText, Token.toList_tokenText, List.all_eq_false]
  exact ⟨'.', List.mem_map.mpr ⟨Token.point, hPoint, rfl⟩, by decide⟩

end Http

/-- A token of claims that have been issued since 1970 is accepted with the secret that signed it,
as just these claims, until a minute after their expiry, and refused as expired from then on. In a
request it stands behind the word, and authenticates the subject that it was issued for. Without a
secret no token is signed and none is accepted. -/
theorem issued_tokens_validate (security : SecuritySettings) :
    (security.secret ≠ "" → ∀ issued subject hours claims, 0 ≤ issued →
      Claims.issue issued subject hours = .ok claims →
        claims = ⟨subject, issued + 3600 * hours, issued⟩ ∧
        ∃ token, claims.sign security.secret = .ok token ∧
          (∀ now, Token.validate security.secret now token =
            if now - 60 ≤ claims.expires then .ok claims
            else .error (.invalid "ExpiredSignature")) ∧
          ∀ r : Http.Request, r.header? "authorization" = some (Http.bearer ++ token) →
            r.token = .ok token ∧
            ∀ now, Http.authenticate security now r =
              if now - 60 ≤ claims.expires then .ok claims
              else .error (.unauthorized "Invalid JWT token: ExpiredSignature")) ∧
    (security.secret = "" → ∀ (claims : Claims) now text,
      claims.sign security.secret = .error .secretMissing ∧
        Token.validate security.secret now text = .error .secretMissing) := by
  constructor
  · intro hSecret issued subject hours claims hIssued hIssue
    obtain ⟨hDated, hClaims⟩ := Claims.dated_of_issue hIssued hIssue
    have hValidate := Token.validate_tokenText hSecret hDated
    refine ⟨hClaims, _, Token.sign_eq hSecret claims, hValidate, ?_⟩
    intro r hHeader
    have hToken := Http.Request.token_of_bearer hHeader (Http.isPlain_tokenText _ _)
      (Http.not_isBlankText_tokenText _ _)
    refine ⟨hToken, fun now => ?_⟩
    rw [Http.authenticate, hToken, ok_bind, hValidate]
    by_cases hTime : now - Token.leeway ≤ claims.expires
    · rw [if_pos hTime]
      exact (if_pos hTime).symm
    · rw [if_neg hTime]
      exact (if_neg hTime).symm
  · intro hSecret claims now text
    rw [hSecret]
    exact ⟨rfl, rfl⟩

/-- A subject with quotes and a letter beyond ASCII, for an hour, in the last second of the leeway
and in the next one. -/
theorem issued_tokens_validate_leeway :
    ∃ claims token, Claims.issue 1700000000 "Zo\u00EB \"reports\"" 1 = .ok claims ∧
      claims.sign "s3cret" = .ok token ∧
      Token.validate "s3cret" 1700003660 token = .ok claims ∧
      Token.validate "s3cret" 1700003661 token = .error (.invalid "ExpiredSignature") ∧
      Http.authenticate ⟨true, "s3cret", 1⟩ 1700003660
        ⟨"GET", ⟨"/campaigns", none⟩, [("Authorization", Http.bearer ++ token)], ""⟩ =
          .ok claims ∧
      Token.validate "" 1700000000 token = .error .secretMissing := by
  have hIssue : Claims.issue 1700000000 "Zo\u00EB \"reports\"" 1 =
      .ok ⟨"Zo\u00EB \"reports\"", 1700003600, 1700000000⟩ := rfl
  obtain ⟨-, token, hSign, hValidate, hShown⟩ :=
    (issued_tokens_validate ⟨true, "s3cret", 1⟩).1 (by decide) _ _ _ _ (by decide) hIssue
  have hName : Ascii.lowercase "Authorization" = Ascii.lowercase "authorization" := by decide
  obtain ⟨-, hCaller⟩ := hShown
    ⟨"GET", ⟨"/campaigns", none⟩, [("Authorization", Http.bearer ++ token)], ""⟩
    (by simp [Http.Request.header?, hName])
  have hMissing := ((issued_tokens_validate ⟨true, "", 1⟩).2 rfl
    ⟨"Zo\u00EB \"reports\"", 1700003600, 1700000000⟩ 1700000000 token).2
  exact ⟨_, token, hIssue, hSign, hValidate 1700003660, hValidate 1700003661, hCaller 1700003660,
    hMissing⟩

end CampaignFetch

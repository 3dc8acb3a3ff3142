import Gatehouse.Auth.Token
import Gatehouse.Proofs.Json.Tokens
import Gatehouse.Proofs.Text.Base64

/-!
# Signed tokens verify

A token that was signed is taken apart into the very parts it was made of, because no part but the
signed text holds a dot (`parts?_signWith`). Its header and claims are read as the JSON objects that were
written (`isHeader_header`, `claimsOf?_claims`), and no registered name stands among its claims.

* `verifyWith_signWith`: under its own key a signed token verifies to its claims, or is expired; it is
  refused as invalid only for an expiry before 1970;
* `of_verifyWith_ne_invalid`: what is accepted, or refused as expired, has a signature, and claims that decide
  which of the two it is;
* `sign_injective`: different claims are never signed as one token, whatever the secrets.
-/

namespace Gatehouse

open Json (Token)
open Json.Record

/-! ### The claims as tokens -/

namespace Claims

/-- The times of claims fit a signed word of 64 bits. -/
structure Fits (c : Claims) : Prop where
  issuedAt : Token.FitsWord c.issuedAt
  expiresAt : Token.FitsWord c.expiresAt

/-- The tokens of written claims, from the first key on. -/
def tokens (c : Claims) : List Token :=
  [.string (some "username"), .colon, .string (some c.username), .comma,
    .string (some "sub"), .colon, .string (some c.sub), .comma,
    .string (some "role"), .colon, .string (some c.role), .comma,
    .string (some "iat"), .colon, .number (some (.int c.issuedAt)), .comma,
    .string (some "exp"), .colon, .number (some (.int c.expiresAt)), .comma,
    .string (some "jti"), .colon, .string (some c.tokenId), .closeBrace]

/-- Written claims are read as their tokens. -/
theorem ofText_render {c : Claims} (h : c.Fits) :
    Token.ofText c.toJson.render = .openBrace :: c.tokens :=
  Token.ofText_object <| .more _ (.string _) <| .more _ (.string _) <| .more _ (.string _) <|
    .more _ (.int h.issuedAt) <| .more _ (.int h.expiresAt) <| .last _ (.string _)

/-- The cells of written claims. -/
def cells (c : Claims) : List Cell :=
  [⟨some "username", [.string (some c.username)], true⟩, ⟨some "sub", [.string (some c.sub)], true⟩,
    ⟨some "role", [.string (some c.role)], true⟩,
    ⟨some "iat", [.number (some (.int c.issuedAt))], true⟩,
    ⟨some "exp", [.number (some (.int c.expiresAt))], true⟩,
    ⟨some "jti", [.string (some c.tokenId)], true⟩]

/-- Written claims are cut into their cells. -/
theorem cutFrom_tokens (c : Claims) : cutFrom true .first c.tokens = (c.cells, .closed []) := rfl

/-- Claims are read from their tokens. -/
theorem ofTokens?_tokens {c : Claims} (h : c.Fits) :
    ofTokens? (.openBrace :: c.tokens) = some c := by
  have hissued : c.issuedAt < 0x8000000000000000 := h.issuedAt.2
  have hexpires : c.expiresAt < 0x8000000000000000 := h.expiresAt.2
  have hread : readObject fields [] c.cells = .ok [("jti", .text c.tokenId),
      ("exp", .integer c.expiresAt), ("iat", .integer c.issuedAt), ("role", .text c.role),
      ("sub", .text c.sub), ("username", .text c.username)] := by
    simp [readObject, fields, cells, List.find?, Kind.read, hissued, hexpires]
  have hrecord : Json.Record.read fields (.openBrace :: c.tokens) = .ok [.text c.username,
      .text c.sub, .text c.role, .integer c.issuedAt, .integer c.expiresAt, .text c.tokenId] := by
    rw [Json.Record.read, cutFrom_tokens]
    dsimp only
    rw [hread]
    simp [collect, fields, finish, List.lookup_cons, Except.map]
  rw [ofTokens?, hrecord]

/-- No registered name stands among written claims. -/
theorem read_registeredFields (c : Claims) (isAudience : List Token → Bool) :
    (Json.Record.read (SignedToken.registeredFields isAudience) (.openBrace :: c.tokens)).isOk =
      true := by
  have hread : readObject (SignedToken.registeredFields isAudience) [] c.cells = .ok [] := by
    simp [readObject, SignedToken.registeredFields, cells, List.find?]
  rw [Json.Record.read, cutFrom_tokens]
  dsimp only
  rw [hread]
  simp [collect, SignedToken.registeredFields, finish, Except.map, Kind.missing?, Except.isOk,
    Except.toBool]

end Claims

namespace SignedToken

/-! ### The parts of a token -/

/-- A text is cut at a dot that no other follows. -/
theorem cutLast?_append (cs : List Char) {after : List Char} (h : '.' ∉ after) :
    cutLast? (cs ++ '.' :: after) = some (cs, after) := by
  have hafter : ((cs ++ '.' :: after).reverse.takeWhile (· ≠ '.')).reverse = after := by
    rw [List.reverse_append, List.reverse_cons, List.append_assoc, List.singleton_append,
      List.takeWhile_append_of_pos]
    · simp
    · intro c hc
      exact decide_eq_true fun hdot => h (hdot ▸ List.mem_reverse.mp hc)
  have hlength : (cs ++ '.' :: after).length - after.length = cs.length + 1 := by
    rw [List.length_append, List.length_cons]
    omega
  unfold cutLast?
  rw [hafter]
  dsimp only
  rw [hlength]
  dsimp only
  rw [List.take_left]

/-- No dot stands in what is written for addresses. -/
theorem dot_notMem_encode (bytes : Crypto.Bytes) :
    '.' ∉ (Base64.encode Base64.urlSafe bytes).toList := by
  rw [Base64.encode, String.toList_ofList]
  intro h
  rcases Base64.mem_encodeChars h with h | h
  · revert h
    decide +kernel
  · exact absurd h (by decide)

/-- **A signed token is taken apart into what it was made of.** -/
theorem parts?_signWith (key : Crypto.Bytes) (c : Claims) :
    parts? (signWith key c) = some ⟨(encodeText header.render).toList,
      (encodeText c.toJson.render).toList, signature key (message c), message c⟩ := by
  have htoken : (signWith key c).toList =
      (message c).toList ++ '.' :: (signature key (message c)).toList := by
    simp [signWith]
  have hmessage : (message c).toList =
      (encodeText header.render).toList ++ '.' :: (encodeText c.toJson.render).toList := by
    simp [message]
  have hcut : cutLast? (signWith key c).toList =
      some ((message c).toList, (signature key (message c)).toList) := by
    rw [htoken]
    exact cutLast?_append _ (dot_notMem_encode _)
  have hcut' : cutLast? (message c).toList =
      some ((encodeText header.render).toList, (encodeText c.toJson.render).toList) := by
    rw [hmessage]
    exact cutLast?_append _ (dot_notMem_encode _)
  rw [parts?, hcut]
  dsimp only
  rw [hcut']
  simp

/-- The tokens of an encoded text. -/
theorem tokensOf?_encodeText (text : String) :
    tokensOf? (encodeText text).toList = some (Token.ofText text) := by
  rw [tokensOf?, encodeText, Base64.encode]
  rw [String.toList_ofList, Base64.decode_encodeChars Base64.urlSafe_legible]
  dsimp only
  rw [Token.ofBytes, Utf8.symbols_encode, Token.ofText]

/-! ### Verifying -/

/-- The header of every token that is signed here is in order. -/
theorem isHeader_header : isHeader (encodeText header.render).toList = true := by
  have htokens : Token.ofText header.render = .openBrace ::
      [.string (some "typ"), .colon, .string (some "JWT"), .comma,
        .string (some "alg"), .colon, .string (some "HS256"), .closeBrace] :=
    Token.ofText_object <| .more _ (.string _) <| .last _ (.string _)
  rw [isHeader, tokensOf?_encodeText, htokens]
  decide

/-- The claims of a signed token, unless they expired before 1970. -/
theorem claimsOf?_claims {c : Claims} (h : c.Fits) :
    claimsOf? (encodeText c.toJson.render).toList = if 0 ≤ c.expiresAt then some c else none := by
  rw [claimsOf?, tokensOf?_encodeText, Claims.ofText_render h]
  dsimp only
  rw [Claims.ofTokens?_tokens h]

/-- No registered name of a signed token is out of order. -/
theorem registeredInOrder_claims {c : Claims} (h : c.Fits) (isAudience : List Token → Bool) :
    registeredInOrder isAudience (encodeText c.toJson.render).toList = true := by
  rw [registeredInOrder, tokensOf?_encodeText, Claims.ofText_render h]
  exact c.read_registeredFields isAudience

/-- **A signed token verifies under its own key**, to the claims it was signed with. -/
theorem verifyWith_signWith (key : Crypto.Bytes) {c : Claims} (h : c.Fits) (checkExpiry : Bool)
    (now : Instant) :
    verifyWith (signWith key c) key checkExpiry now =
      if c.expiresAt < 0 then .error .invalid
      else if checkExpiry && c.expiresAt < now.second then .error .expired
      else .ok c := by
  obtain ⟨p, hp, hheader, hsignature, hclaims, hregistered⟩ : ∃ p, parts? (signWith key c) = some p ∧
      isHeader p.header = true ∧ p.signature = signature key p.message ∧
      claimsOf? p.claims = (if 0 ≤ c.expiresAt then some c else none) ∧
      ∀ isAudience, registeredInOrder isAudience p.claims = true := by
    refine ⟨_, parts?_signWith key c, ?_⟩
    dsimp only
    exact ⟨isHeader_header, rfl, claimsOf?_claims h, registeredInOrder_claims h⟩
  rw [verifyWith, hp]
  dsimp only
  rw [hheader, hsignature, hclaims, hregistered, hregistered]
  by_cases hneg : c.expiresAt < 0
  · simp [hneg, Int.not_le.mpr hneg]
  · simp [hneg, Int.not_lt.mp hneg]

/-- A signed token verifies under its own secret. -/
theorem verify_sign (secret : String) {c : Claims} (h : c.Fits) (checkExpiry : Bool)
    (now : Instant) :
    verify (sign secret c) secret checkExpiry now =
      if c.expiresAt < 0 then .error .invalid
      else if checkExpiry && c.expiresAt < now.second then .error .expired
      else .ok c :=
  verifyWith_signWith (keyOf secret) h checkExpiry now

/-! ### The claims that a token carries -/

/-- The claims that a token carries, whether or not its signature is right. An expiry before 1970 is not
read as one. -/
def claims? (token : String) : Option Claims := (parts? token).bind fun p => claimsOf? p.claims

/-- A signed token carries the claims it was signed with. -/
theorem claims?_sign (secret : String) {c : Claims} (h : c.Fits) :
    claims? (sign secret c) = if 0 ≤ c.expiresAt then some c else none := by
  rw [claims?, sign, parts?_signWith, Option.bind_some]
  dsimp only
  exact claimsOf?_claims h

/-- The claims in a token's payload, even if nobody would accept the token any more. -/
def payload? (token : String) : Option Claims :=
  (parts? token).bind fun p => (tokensOf? p.claims).bind Claims.ofTokens?

/-- The claims that a token was signed with are in its payload. -/
theorem payload?_sign (secret : String) {c : Claims} (h : c.Fits) : payload? (sign secret c) = some c := by
  rw [payload?, sign, parts?_signWith, Option.bind_some]
  dsimp only
  rw [tokensOf?_encodeText, Option.bind_some, Claims.ofText_render h, Claims.ofTokens?_tokens h]

/-- What a token that is not refused as invalid consists of, and how it is answered: its claims decide alone
whether it is accepted or has expired. -/
theorem of_verifyWith_ne_invalid {token : String} {key : Crypto.Bytes} {checkExpiry : Bool} {now : Instant}
    (h : verifyWith token key checkExpiry now ≠ .error .invalid) :
    ∃ p c, parts? token = some p ∧ isHeader p.header = true ∧ p.signature = signature key p.message ∧
      claimsOf? p.claims = some c ∧
      (verifyWith token key checkExpiry now = .ok c ∧ (checkExpiry = true → now.second ≤ c.expiresAt) ∨
        verifyWith token key checkExpiry now = .error .expired ∧ checkExpiry = true ∧
          c.expiresAt < now.second) := by
  obtain ⟨answer, hanswer⟩ : ∃ answer, verifyWith token key checkExpiry now = answer := ⟨_, rfl⟩
  rw [hanswer] at h ⊢
  rw [verifyWith] at hanswer
  split at hanswer
  · exact absurd hanswer.symm h
  next p hp =>
  split at hanswer
  · exact absurd hanswer.symm h
  next hsigned =>
  obtain ⟨hheader, hsignature⟩ : isHeader p.header = true ∧ p.signature = signature key p.message := by
    simpa using hsigned
  split at hanswer
  · exact absurd hanswer.symm h
  next c hc =>
  refine ⟨p, c, hp, hheader, hsignature, hc, ?_⟩
  split at hanswer
  · exact absurd hanswer.symm h
  split at hanswer
  next hexpired =>
    rw [Bool.and_eq_true, decide_eq_true_eq] at hexpired
    exact .inr ⟨hanswer.symm, hexpired⟩
  next hlive =>
    split at hanswer
    · exact absurd hanswer.symm h
    · exact .inl ⟨hanswer.symm, fun hcheck => by simpa [hcheck] using hlive⟩

/-- A token verifies to the claims it carries, and only before they expire. -/
theorem of_verify_eq_ok {token secret : String} {checkExpiry : Bool} {now : Instant} {c : Claims}
    (h : verify token secret checkExpiry now = .ok c) :
    claims? token = some c ∧ (checkExpiry = true → now.second ≤ c.expiresAt) := by
  rw [verify] at h
  have hne : verifyWith token (keyOf secret) checkExpiry now ≠ .error .invalid := by simp [h]
  obtain ⟨p, c', hp, -, -, hclaims, ⟨hok, hexpiry⟩ | ⟨hexpired, -⟩⟩ := of_verifyWith_ne_invalid hne
  · obtain rfl : c' = c := Except.ok.inj (hok.symm.trans h)
    exact ⟨by rw [claims?, hp, Option.bind_some, hclaims], hexpiry⟩
  · simp [h] at hexpired

/-- **A token is signed for one set of claims**: other claims, under whatever secret, make another
token. -/
theorem sign_injective {secret secret' : String} {c c' : Claims} (h : c.Fits) (h' : c'.Fits)
    (hsign : sign secret c = sign secret' c') : c = c' := by
  have hparts : parts? (sign secret c) = parts? (sign secret' c') := by rw [hsign]
  rw [sign, sign, parts?_signWith, parts?_signWith] at hparts
  simp only [Option.some.injEq, Parts.mk.injEq] at hparts
  obtain ⟨-, hclaims, -, -⟩ := hparts
  have htokens : tokensOf? (encodeText c.toJson.render).toList =
      tokensOf? (encodeText c'.toJson.render).toList := by rw [hclaims]
  rw [tokensOf?_encodeText, tokensOf?_encodeText, Claims.ofText_render h,
    Claims.ofText_render h'] at htokens
  have hread : Claims.ofTokens? (.openBrace :: c.tokens) =
      Claims.ofTokens? (.openBrace :: c'.tokens) := by rw [Option.some.inj htokens]
  rw [Claims.ofTokens?_tokens h, Claims.ofTokens?_tokens h'] at hread
  exact Option.some.inj hread

end SignedToken

end Gatehouse

import Gatehouse.Proofs.Auth.SignedToken
import Gatehouse.Proofs.Json.Records
import Gatehouse.Proofs.Text.Base64Canonical
import Mathlib.Data.List.TakeWhile

/-!
# Only signed tokens are answered

A token that is accepted, or refused as expired, was signed: between its last two dots and after them it
has the base64 of claims, and of the code that the key gives to all before the last dot. So nothing is learnt
from an expiry about a token that was not signed, and of all texts that differ in the signature alone at most
one is answered.

* `of_parts?_eq_some`: a token is its parts joined by dots, and the last two have none;
* `holds_of_isHeader`, `holds_of_claimsOf?`: what stands in a header that is accepted, and in claims that are read,
  by the grammar of records and without their reader;
* `answered_only_if_authentic`: what is known of a token that is answered.
-/

namespace Gatehouse

open Json (Token)
open Json.Record

/-! ### Fields -/

namespace Json.Record

variable {tokens : List Token} {members : List Member} {name : String} {v : Value}

/-- A text is read from one token. -/
theorem eq_of_reads_text {s : String} (h : Kind.text.Reads tokens (.text s)) : tokens = [.string (some s)] := by
  unfold Kind.Reads Kind.read at h
  split at h <;> simp_all

/-- An integer is read from one token. -/
theorem eq_of_reads_integer {n : Int} (h : Kind.integer.Reads tokens (.integer n)) :
    tokens = [.number (some (.int n))] := by
  unfold Kind.Reads Kind.read at h
  split at h <;> simp_all [ite_ok_eq_ok_iff]

/-- A value of some shape has it. -/
theorem accepts_of_reads_shaped {accepts : List Token → Bool} (h : (Kind.shaped accepts).Reads tokens v) :
    accepts tokens = true :=
  (ite_ok_eq_ok_iff.mp h).1

/-- A field that is a text stands once. -/
theorem Field.Has.text {s : String} (h : Field.Has members ⟨name, .text, false⟩ (.text s)) :
    valuesOf name members = [[.string (some s)]] := by
  cases h with
  | once stands reads => rw [← eq_of_reads_text reads]; exact stands
  | missing _ lacks => exact absurd lacks nofun

/-- A field that is an integer stands once. -/
theorem Field.Has.integer {n : Int} (h : Field.Has members ⟨name, .integer, false⟩ (.integer n)) :
    valuesOf name members = [[.number (some (.int n))]] := by
  cases h with
  | once stands reads => rw [← eq_of_reads_integer reads]; exact stands
  | missing _ lacks => exact absurd lacks nofun

/-- A field with a value of some shape stands once, with such a value. -/
theorem Field.Has.shaped {accepts : List Token → Bool} (h : Field.Has members ⟨name, .shaped accepts, false⟩ v) :
    ∃ value, valuesOf name members = [value] ∧ accepts value = true := by
  cases h with
  | once stands reads => exact ⟨_, stands, accepts_of_reads_shaped reads⟩
  | missing _ lacks => exact absurd lacks nofun

end Json.Record

/-! ### The claims -/

namespace Claims

variable (c : Claims)

/-- The claims stand among the members of an object, each once. -/
structure StandIn (members : List Member) : Prop where
  username : valuesOf "username" members = [[.string (some c.username)]]
  sub : valuesOf "sub" members = [[.string (some c.sub)]]
  role : valuesOf "role" members = [[.string (some c.role)]]
  issuedAt : valuesOf "iat" members = [[.number (some (.int c.issuedAt))]]
  expiresAt : valuesOf "exp" members = [[.number (some (.int c.expiresAt))]]
  tokenId : valuesOf "jti" members = [[.string (some c.tokenId)]]

/-- Some tokens are an object in which the claims stand. -/
def WrittenAs (tokens : List Token) : Prop :=
  ∃ members : List Member, (∀ m ∈ members, Whole m.2) ∧ tokens = objectTokens members ∧ c.StandIn members

variable {c}

/-- Claims that are read from an object stand in it. -/
theorem writtenAs_of_ofTokens? {ts : List Token} (h : ofTokens? (.openBrace :: ts) = some c) :
    c.WrittenAs (.openBrace :: ts) := by
  rw [ofTokens?] at h
  split at h
  next username sub role issuedAt expiresAt tokenId hread =>
    obtain rfl := Option.some.inj h
    obtain ⟨members, hwhole, hts, hfields⟩ := of_read_object (by decide) hread
    refine ⟨members, hwhole, hts, ?_⟩
    obtain ⟨husername, hfields⟩ := List.forall₂_cons.mp hfields
    obtain ⟨hsub, hfields⟩ := List.forall₂_cons.mp hfields
    obtain ⟨hrole, hfields⟩ := List.forall₂_cons.mp hfields
    obtain ⟨hissuedAt, hfields⟩ := List.forall₂_cons.mp hfields
    obtain ⟨hexpiresAt, hfields⟩ := List.forall₂_cons.mp hfields
    obtain ⟨htokenId, -⟩ := List.forall₂_cons.mp hfields
    exact ⟨husername.text, hsub.text, hrole.text, hissuedAt.integer, hexpiresAt.integer, htokenId.text⟩
  next => cases h

end Claims

namespace SignedToken

/-! ### The header -/

/-- A value that names the one algorithm: by itself, or as the only name in an object. -/
inductive NamesAlgorithm : List Token → Prop
  | name : NamesAlgorithm [.string (some "HS256")]
  | object : NamesAlgorithm [.openBrace, .string (some "HS256"), .colon, .null, .closeBrace]

/-- The tokens of a header with the one algorithm: of an object in which it is named once, or of an array in
which its name comes second. -/
inductive IsHeader : List Token → Prop
  | object {members : List Member} {value : List Token} (whole : ∀ m ∈ members, Whole m.2)
      (once : valuesOf "alg" members = [value]) (names : NamesAlgorithm value) : IsHeader (objectTokens members)
  | array {first value : List Token} {items : List (List Token)}
      (whole : ∀ v ∈ first :: value :: items, Whole v) (names : NamesAlgorithm value) :
      IsHeader (arrayTokens (first :: value :: items))

theorem namesAlgorithm_of_isAlgorithm {value : List Token} (h : isAlgorithm value = true) :
    NamesAlgorithm value := by
  unfold isAlgorithm at h
  split at h
  next => rw [of_decide_eq_true h]; exact .name
  next => rw [of_decide_eq_true h]; exact .object
  next => cases h

/-- A header that is read names the algorithm: it is the second field of headers. -/
theorem isHeader_of_read {tokens : List Token} {values : List Value}
    (h : Json.Record.read headerFields tokens = .ok values) : IsHeader tokens := by
  rcases exists_of_read_eq_ok h with ⟨ts, rfl⟩ | ⟨ts, rfl⟩
  · obtain ⟨members, hwhole, hts, hfields⟩ := of_read_object (by decide) h
    obtain ⟨_, _, -, hfields, -⟩ := List.forall₂_cons_left_iff.mp hfields
    obtain ⟨_, _, halg, -, -⟩ := List.forall₂_cons_left_iff.mp hfields
    obtain ⟨value, hvalue, haccepts⟩ := halg.shaped
    rw [hts]
    exact .object hwhole hvalue (namesAlgorithm_of_isAlgorithm haccepts)
  · obtain ⟨items, hwhole, hts, hfields⟩ := of_read_array (by decide) h
    obtain ⟨first, _, -, hrest, rfl⟩ := List.forall₂_cons_left_iff.mp hfields
    obtain ⟨value, rest, ⟨v, halg⟩, -, rfl⟩ := List.forall₂_cons_left_iff.mp hrest
    rw [hts]
    exact .array hwhole (namesAlgorithm_of_isAlgorithm (accepts_of_reads_shaped halg))

/-! ### The parts -/

/-- A part holds some tokens: it is the base64 of bytes in which they are found. -/
def Holds (part : String) (tokens : List Token) : Prop :=
  ∃ bytes, part = Base64.encode Base64.urlSafe bytes ∧ Token.ofBytes bytes = tokens

/-- No dot stands in a part that holds tokens. -/
theorem Holds.dot_notMem {part : String} {tokens : List Token} (h : Holds part tokens) : '.' ∉ part.toList := by
  obtain ⟨bytes, rfl, -⟩ := h
  exact dot_notMem_encode bytes

/-- A part whose tokens are known holds them. -/
theorem holds_of_tokensOf? {part : List Char} {tokens : List Token} (h : tokensOf? part = some tokens) :
    Holds (String.ofList part) tokens := by
  rw [tokensOf?] at h
  split at h
  next bytes hbytes =>
    refine ⟨bytes, (Base64.decodeText_eq_ok_iff Base64.urlSafe_exact).mp ?_, Option.some.inj h⟩
    rw [Base64.decodeText, Utf8.encode, String.toList_ofList, hbytes]
  next => cases h

/-- A header that is in order holds the tokens of one. -/
theorem holds_of_isHeader {part : List Char} (h : isHeader part = true) :
    ∃ tokens, Holds (String.ofList part) tokens ∧ IsHeader tokens := by
  rw [isHeader] at h
  split at h
  next tokens htokens =>
    refine ⟨tokens, holds_of_tokensOf? htokens, ?_⟩
    cases hread : Json.Record.read headerFields tokens with
    | ok values => exact isHeader_of_read hread
    | error e =>
      rw [hread] at h
      exact absurd h Bool.false_ne_true
  next => exact absurd h Bool.false_ne_true

/-- Claims that are read stand in the tokens of the part. -/
theorem holds_of_claimsOf? {part : List Char} {c : Claims} (h : claimsOf? part = some c) :
    ∃ tokens, Holds (String.ofList part) tokens ∧ c.WrittenAs tokens := by
  rw [claimsOf?] at h
  split at h
  next tokens htokens =>
    split at h
    next c' hread =>
      obtain ⟨-, hc⟩ := Option.ite_none_right_eq_some.mp h
      obtain rfl := Option.some.inj hc
      exact ⟨_, holds_of_tokensOf? htokens, Claims.writtenAs_of_ofTokens? hread⟩
    next => cases h
  next => cases h

/-- What is cut at its last dot. -/
theorem of_cutLast?_eq_some {cs before after : List Char} (h : cutLast? cs = some (before, after)) :
    cs = before ++ '.' :: after ∧ '.' ∉ after := by
  have hsplit : (cs.reverse.dropWhile (· ≠ '.')).reverse ++ (cs.reverse.takeWhile (· ≠ '.')).reverse = cs := by
    rw [← List.reverse_append, List.takeWhile_append_dropWhile, List.reverse_reverse]
  have hdot : '.' ∉ (cs.reverse.takeWhile (· ≠ '.')).reverse := fun hmem => by
    simpa using List.mem_takeWhile_imp (List.mem_reverse.mp hmem)
  have hlength := congrArg List.length hsplit
  rw [List.length_append, List.length_reverse] at hlength
  unfold cutLast? at h
  dsimp only at h
  split at h
  next => cases h
  next n hn =>
    obtain ⟨rfl, rfl⟩ := Prod.mk.inj (Option.some.inj h)
    refine ⟨?_, hdot⟩
    -- what is before the part without dots is not empty, so it ends with a dot
    have hfirst := List.head?_dropWhile_not (· ≠ '.') cs.reverse
    cases hrest : cs.reverse.dropWhile (· ≠ '.') with
    | nil =>
      rw [hrest, List.length_nil] at hlength
      omega
    | cons c rest =>
      rw [hrest] at hsplit hlength hfirst
      obtain rfl : c = '.' := by simpa using hfirst
      rw [List.length_cons] at hlength
      rw [List.reverse_cons, List.append_assoc, List.singleton_append] at hsplit
      have htake : cs.take n = rest.reverse := by
        rw [← hsplit, show n = rest.reverse.length by rw [List.length_reverse]; omega, List.take_left]
      rw [htake, hsplit]

/-- **A token is its parts joined by dots**, and the last two have none. -/
theorem of_parts?_eq_some {token : String} {p : Parts} (h : parts? token = some p) :
    token = String.ofList p.header ++ "." ++ String.ofList p.claims ++ "." ++ p.signature ∧
      p.message = String.ofList p.header ++ "." ++ String.ofList p.claims ∧
      '.' ∉ p.claims ∧ '.' ∉ p.signature.toList := by
  rw [parts?] at h
  split at h
  next message signature htoken =>
    split at h
    next header claims hmessage =>
      obtain rfl := Option.some.inj h
      obtain ⟨htoken, hsignature⟩ := of_cutLast?_eq_some htoken
      obtain ⟨rfl, hclaims⟩ := of_cutLast?_eq_some hmessage
      refine ⟨?_, ?_, hclaims, by rwa [String.toList_ofList]⟩
      · refine String.toList_inj.mp ?_
        simp [htoken]
      · refine String.toList_inj.mp ?_
        simp
    next => cases h
  next => cases h

/-! ### Verifying -/

/-- A text before a dot ends there, if it has none itself. -/
theorem eq_of_append_dot_eq {a b x y : List Char} (ha : '.' ∉ a) (hb : '.' ∉ b)
    (h : a ++ '.' :: x = b ++ '.' :: y) : a = b ∧ x = y := by
  induction a generalizing b with
  | nil =>
    cases b with
    | nil => exact ⟨rfl, (List.cons.inj h).2⟩
    | cons c b => exact absurd ((List.cons.inj h).1 ▸ List.mem_cons_self) hb
  | cons c a ih =>
    cases b with
    | nil => exact absurd ((List.cons.inj h).1 ▸ List.mem_cons_self) ha
    | cons d b =>
      obtain ⟨rfl, htail⟩ := List.cons.inj h
      obtain ⟨rfl, hxy⟩ := ih (List.not_mem_of_not_mem_cons ha) (List.not_mem_of_not_mem_cons hb) htail
      exact ⟨rfl, hxy⟩

/-- A signature on a header and claims: the base64 of the code that the key gives to both. -/
def IsSignature (key : Crypto.Bytes) (header claims tag : String) : Prop :=
  tag = Base64.encode Base64.urlSafe (Crypto.hmacSha256 key (Utf8.encode (header ++ "." ++ claims)))

/-- A token that is answered is signed, on a header with the one algorithm and on claims; it is accepted with
these claims, or refused because they have expired. -/
theorem signed_of_verifyWith_ne_invalid {token : String} {key : Crypto.Bytes} {checkExpiry : Bool} {now : Instant}
    (h : verifyWith token key checkExpiry now ≠ .error .invalid) :
    ∃ header claims tag : String, token = header ++ "." ++ claims ++ "." ++ tag ∧
      (∀ part ∈ [header, claims, tag], '.' ∉ part.toList) ∧ IsSignature key header claims tag ∧
      (∃ tokens, Holds header tokens ∧ IsHeader tokens) ∧
      ∃ tokens c, Holds claims tokens ∧ c.WrittenAs tokens ∧
        (verifyWith token key checkExpiry now = .ok c ∧ (checkExpiry = true → now.second ≤ c.expiresAt) ∨
          verifyWith token key checkExpiry now = .error .expired ∧ checkExpiry = true ∧
            c.expiresAt < now.second) := by
  obtain ⟨p, c, hp, hheader, hsignature, hclaims, hanswer⟩ := of_verifyWith_ne_invalid h
  obtain ⟨htoken, hmessage, hdot, hdot'⟩ := of_parts?_eq_some hp
  obtain ⟨headerTokens, hholds, hisHeader⟩ := holds_of_isHeader hheader
  obtain ⟨claimTokens, hholds', hwritten⟩ := holds_of_claimsOf? hclaims
  refine ⟨String.ofList p.header, String.ofList p.claims, p.signature, htoken, ?_, ?_,
    ⟨headerTokens, hholds, hisHeader⟩, claimTokens, c, hholds', hwritten, hanswer⟩
  · intro part hpart
    simp only [List.mem_cons, List.not_mem_nil, or_false] at hpart
    rcases hpart with rfl | rfl | rfl
    · exact hholds.dot_notMem
    · exact hholds'.dot_notMem
    · exact hdot'
  · rw [IsSignature, hsignature, hmessage]
    rfl

/-- Another signature on the same header and claims is refused as invalid, at any time. -/
theorem verifyWith_of_other_signature {key : Crypto.Bytes} {header claims tag other : String}
    (hparts : ∀ part ∈ [header, claims, tag], '.' ∉ part.toList) (htag : IsSignature key header claims tag)
    (hother : other ≠ tag) (checkExpiry : Bool) (now : Instant) :
    verifyWith (header ++ "." ++ claims ++ "." ++ other) key checkExpiry now = .error .invalid := by
  by_contra hanswered
  obtain ⟨header', claims', tag', htoken, hparts', htag', -⟩ := signed_of_verifyWith_ne_invalid hanswered
  have hjoined : header.toList ++ '.' :: (claims.toList ++ '.' :: other.toList) =
      header'.toList ++ '.' :: (claims'.toList ++ '.' :: tag'.toList) := by
    simpa using congrArg String.toList htoken
  obtain ⟨hheader, hrest⟩ := eq_of_append_dot_eq (hparts header (by simp)) (hparts' header' (by simp)) hjoined
  obtain ⟨hclaims, htags⟩ := eq_of_append_dot_eq (hparts claims (by simp)) (hparts' claims' (by simp)) hrest
  rw [String.toList_inj] at hheader hclaims htags
  rw [IsSignature] at htag htag'
  exact hother (by rw [htags, htag', htag, hheader, hclaims])

/-- **A token is answered only if it is authentic.** If it is accepted or refused as expired, its three parts are
a header with the one algorithm, the claims that it is answered with, and their signature under the key; and
no other text in the place of the signature is ever answered, accepted or expired. -/
theorem answered_only_if_authentic {token : String} {key : Crypto.Bytes} {checkExpiry : Bool} {now : Instant}
    (h : verifyWith token key checkExpiry now ≠ .error .invalid) :
    ∃ header claims tag : String, token = header ++ "." ++ claims ++ "." ++ tag ∧
      (∀ part ∈ [header, claims, tag], '.' ∉ part.toList) ∧ IsSignature key header claims tag ∧
      (∃ tokens, Holds header tokens ∧ IsHeader tokens) ∧
      (∃ tokens c, Holds claims tokens ∧ c.WrittenAs tokens ∧
        (verifyWith token key checkExpiry now = .ok c ∧ (checkExpiry = true → now.second ≤ c.expiresAt) ∨
          verifyWith token key checkExpiry now = .error .expired ∧ checkExpiry = true ∧
            c.expiresAt < now.second)) ∧
      ∀ (other : String) (checkExpiry' : Bool) (now' : Instant), other ≠ tag →
        verifyWith (header ++ "." ++ claims ++ "." ++ other) key checkExpiry' now' = .error .invalid := by
  obtain ⟨header, claims, tag, htoken, hparts, htag, hheader, hclaims⟩ := signed_of_verifyWith_ne_invalid h
  exact ⟨header, claims, tag, htoken, hparts, htag, hheader, hclaims, fun other checkExpiry' now' hother =>
    verifyWith_of_other_signature hparts htag hother checkExpiry' now'⟩

/-- Claims of a sample token. -/
def sampleClaims : Claims := ⟨"ada", "u1", "user", 0, 900, "1"⟩

theorem fits_sampleClaims : sampleClaims.Fits := ⟨⟨by decide, by decide⟩, ⟨by decide, by decide⟩⟩

/-- The sample token is refused as expired; so it was signed, and with any other signature it is invalid. -/
theorem sample_expired_is_authentic :
    verifyWith (signWith [255] sampleClaims) [255] true ⟨1000, 0⟩ = .error .expired ∧
      ∃ header claims tag : String, signWith [255] sampleClaims = header ++ "." ++ claims ++ "." ++ tag ∧
        IsSignature [255] header claims tag ∧
        ∀ other ≠ tag, verifyWith (header ++ "." ++ claims ++ "." ++ other) [255] true ⟨1000, 0⟩ =
          .error .invalid := by
  have hexpired : verifyWith (signWith [255] sampleClaims) [255] true ⟨1000, 0⟩ = .error .expired := by
    rw [verifyWith_signWith [255] fits_sampleClaims]
    decide
  have hanswered : verifyWith (signWith [255] sampleClaims) [255] true ⟨1000, 0⟩ ≠ .error .invalid := by
    rw [hexpired]
    nofun
  obtain ⟨header, claims, tag, htoken, -, htag, -, -, hother⟩ := answered_only_if_authentic hanswered
  exact ⟨hexpired, header, claims, tag, htoken, htag, fun other => hother other true ⟨1000, 0⟩⟩

end SignedToken

end Gatehouse

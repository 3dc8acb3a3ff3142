import Gatehouse.Proofs.Auth.Minting
import Gatehouse.Proofs.Crypto.Hmac
import Gatehouse.Settings

/-!
# Tokens of one kind as the other

Header and claims do not tell the kind of a token: only the key does. So what a token is worth as the other kind
depends on the two secrets alone. If these are one and the same key, every token passes as the other kind, too
(`TokenConfig.SharesKey.verify_eq`). Else none does, unless the two keys collide on it
(`TokenConfig.refused_or_collision`).

Nothing in the settings keeps the two secrets apart. `TokenConfig.kinds_are_apart_unless_key_is_shared` says for the
configuration of every environment when they are one key, and what follows.
-/

namespace Gatehouse

/-! ### Signatures under two keys -/

namespace SignedToken

variable {key key' : Crypto.Bytes}

/-- The key of a secret tells the secret. -/
theorem keyOf_injective : Function.Injective keyOf := by
  intro a b h
  have hdecoded : Utf8.decode (Utf8.encode a) = Utf8.decode (Utf8.encode b) := congrArg Utf8.decode h
  rw [Utf8.decode_encode, Utf8.decode_encode] at hdecoded
  exact Except.ok.inj hdecoded

/-- A signature tells the HMAC that it is written from. -/
theorem hmacSha256_eq_of_signature_eq {text : String} (h : signature key text = signature key' text) :
    Crypto.hmacSha256 key (Utf8.encode text) = Crypto.hmacSha256 key' (Utf8.encode text) := by
  have hdecoded := congrArg (Base64.decodeText Base64.urlSafe) h
  rw [signature, signature, Base64.decodeText_encode Base64.urlSafe_legible,
    Base64.decodeText_encode Base64.urlSafe_legible] at hdecoded
  exact Except.ok.inj hdecoded

/-- Under one and the same key every token is worth the same. -/
theorem verifyWith_congr (h : Crypto.hmacKey key = Crypto.hmacKey key') (token : String) (checkExpiry : Bool)
    (now : Instant) : verifyWith token key checkExpiry now = verifyWith token key' checkExpiry now := by
  have hsignature (text : String) : signature key text = signature key' text := by
    rw [signature, Crypto.hmacSha256_congr h, signature]
  rw [verifyWith, verifyWith]
  simp only [hsignature]

/-- A signed token is invalid under a key with another signature for it. -/
theorem verifyWith_signWith_of_signature_ne {claims : Claims}
    (h : signature key (message claims) ≠ signature key' (message claims)) (checkExpiry : Bool) (now : Instant) :
    verifyWith (signWith key claims) key' checkExpiry now = .error .invalid := by
  rw [verifyWith, parts?_signWith]
  simp [h]

end SignedToken

open SignedToken (keyOf message)

/-! ### The two kinds -/

namespace TokenConfig

variable {c : TokenConfig}

/-- The two secrets are one and the same key. -/
def SharesKey (c : TokenConfig) : Prop :=
  Crypto.hmacKey (keyOf c.accessSecret) = Crypto.hmacKey (keyOf c.refreshSecret)

theorem sharesKey_iff {kind other : TokenKind} (h : other ≠ kind) :
    c.SharesKey ↔ Crypto.hmacKey (keyOf (c.secret kind)) = Crypto.hmacKey (keyOf (c.secret other)) := by
  cases kind with
  | access =>
    cases other with
    | access => exact absurd rfl h
    | refresh => exact Iff.rfl
  | refresh =>
    cases other with
    | access => exact eq_comm
    | refresh => exact absurd rfl h

/-- Two secrets of at most a block are one key exactly if one is the other with zero bytes at its end. -/
theorem sharesKey_iff_zeros (haccess : (keyOf c.accessSecret).length ≤ 64)
    (hrefresh : (keyOf c.refreshSecret).length ≤ 64) :
    c.SharesKey ↔ ∃ n, keyOf c.refreshSecret = keyOf c.accessSecret ++ List.replicate n 0 ∨
      keyOf c.accessSecret = keyOf c.refreshSecret ++ List.replicate n 0 :=
  Crypto.hmacKey_eq_iff haccess hrefresh

/-- If the secrets are one key, every token is worth the same as either kind. -/
theorem SharesKey.verify_eq (h : c.SharesKey) {kind other : TokenKind} (hother : other ≠ kind) (token : String)
    (checkExpiry : Bool) (now : Instant) :
    c.verify token other checkExpiry now = c.verify token kind checkExpiry now := by
  have hkeys := ((sharesKey_iff hother).mp h).symm
  rw [verify, SignedToken.verify, SignedToken.verifyWith_congr hkeys]
  rfl

/-- **A token is invalid as the other kind**, unless its two keys collide on it. -/
theorem refused_or_collision {kind other : TokenKind} (hapart : ¬ c.SharesKey) (hother : other ≠ kind)
    (claims : Claims) :
    (∀ checkExpiry later,
        c.verify (SignedToken.sign (c.secret kind) claims) other checkExpiry later = .error .invalidToken) ∨
      Crypto.Collision (Crypto.hmacInput (keyOf (c.secret kind)) (Utf8.encode (message claims)))
        (Crypto.hmacInput (keyOf (c.secret other)) (Utf8.encode (message claims))) := by
  by_cases hsame : SignedToken.signature (keyOf (c.secret kind)) (message claims) =
      SignedToken.signature (keyOf (c.secret other)) (message claims)
  · right
    exact Crypto.collision_of_hmacSha256_eq (fun hkeys => hapart ((sharesKey_iff hother).mpr hkeys))
      (SignedToken.hmacSha256_eq_of_signature_eq hsame)
  · left
    intro checkExpiry later
    rw [verify, SignedToken.verify, SignedToken.sign, SignedToken.verifyWith_signWith_of_signature_ne hsame]
    rfl

end TokenConfig

/-! ### Where the secrets come from -/

/-- A letter or digit is one byte. -/
theorem Utf8.encodeChar_of_isAlphanum {c : Char} (h : c.isAlphanum = true) : encodeChar c = [c.toNat.toUInt8] := by
  have hascii : c.toNat < 0x80 := Nat.lt_of_le_of_lt (Text.toNat_of_isAlphanum h).2 (by decide)
  rw [encodeChar]
  exact if_pos hascii

/-- Letters and digits are one byte each. -/
theorem Utf8.length_encodeChars_of_isAlphanum {cs : List Char} (h : ∀ c ∈ cs, c.isAlphanum = true) :
    (encodeChars cs).length = cs.length := by
  induction cs with
  | nil => rfl
  | cons c cs ih =>
    obtain ⟨hc, hcs⟩ := List.forall_mem_cons.mp h
    rw [encodeChars_cons, encodeChar_of_isAlphanum hc, List.singleton_append, List.length_cons, List.length_cons,
      ih hcs]

/-- A drawn secret is a whole block. -/
theorem FreshSecret.length_keyOf_text (s : FreshSecret) : (keyOf s.text).length = 64 := by
  rw [keyOf, Utf8.encode, text, String.toList_ofList, Utf8.length_encodeChars_of_isAlphanum s.alphanumeric, s.size]

namespace SecretFile

variable {f : SecretFile} {given : Option String} {secret : String} (fresh : FreshSecret)

/-- A secret that is given is used. -/
theorem resolve_of_given (h : given.filter (· ≠ "") = some secret) : (f.resolve given fresh).1 = secret := by
  rw [resolve_of_found (Option.or_eq_some_iff.mpr (.inl h))]

/-- A secret that is neither given nor kept is drawn. -/
theorem resolve_of_none (h : given.filter (· ≠ "") = none) (hfile : f.secret = none) :
    (f.resolve given fresh).1 = fresh.text := by
  rw [resolve_of_not_found (Option.or_eq_none_iff.mpr ⟨h, hfile⟩)]

end SecretFile

/-- The secrets of a configuration are those of its settings. -/
theorem Settings.of_tokenConfig?_eq_some {s : Settings} {c : TokenConfig} (h : s.tokenConfig? = some c) :
    c.accessSecret = s.accessSecret ∧ c.refreshSecret = s.refreshSecret := by
  obtain ⟨access, -, h⟩ := Option.bind_eq_some_iff.mp h
  obtain ⟨refresh, -, h⟩ := Option.bind_eq_some_iff.mp h
  obtain rfl := Option.some.inj h
  exact ⟨rfl, rfl⟩

namespace TokenConfig

/-- **The kinds are apart exactly if the secrets are not one key.** In the configuration of every environment, a
token that is signed as one kind is worth the same as the other kind if the secrets are one key. If they are not,
it is invalid as the other kind, at any time and whether or not its expiry is looked at; else the two keys are
known to collide on the token. Two secrets of at most 64 bytes are one key exactly if one is the other with zero
bytes at its end, two secrets that are drawn exactly if the same was drawn twice. -/
theorem kinds_are_apart_unless_key_is_shared (env : Environment) (dir : DataDirectory)
    (freshAccess freshRefresh : FreshSecret) {c : TokenConfig}
    (hc : (Settings.ofEnvironment env dir freshAccess freshRefresh).1.tokenConfig? = some c) :
    (∀ s kind other now tokenId token, c.sign? s kind now tokenId = some token → other ≠ kind →
      (c.SharesKey → ∀ checkExpiry later,
        c.verify token other checkExpiry later = c.verify token kind checkExpiry later) ∧
      (¬ c.SharesKey →
        (∀ checkExpiry later, c.verify token other checkExpiry later = .error .invalidToken) ∨
          ∃ claims, Claims.mint? s (c.lifetime kind) now tokenId = some claims ∧
            Crypto.Collision (Crypto.hmacInput (keyOf (c.secret kind)) (Utf8.encode (message claims)))
              (Crypto.hmacInput (keyOf (c.secret other)) (Utf8.encode (message claims))))) ∧
    ((keyOf c.accessSecret).length ≤ 64 → (keyOf c.refreshSecret).length ≤ 64 →
      (c.SharesKey ↔ ∃ n, keyOf c.refreshSecret = keyOf c.accessSecret ++ List.replicate n 0 ∨
        keyOf c.accessSecret = keyOf c.refreshSecret ++ List.replicate n 0)) ∧
    (∀ access refresh, env.getFilled? "JWT_SECRET" = some access →
      env.getFilled? "JWT_REFRESH_SECRET" = some refresh → c.accessSecret = access ∧ c.refreshSecret = refresh) ∧
    (env.getFilled? "JWT_SECRET" = none → dir.accessSecret.secret = none →
      env.getFilled? "JWT_REFRESH_SECRET" = none → dir.refreshSecret.secret = none →
        (c.SharesKey ↔ freshAccess.text = freshRefresh.text)) := by
  obtain ⟨haccess, hrefresh⟩ := Settings.of_tokenConfig?_eq_some hc
  refine ⟨?_, sharesKey_iff_zeros, ?_, ?_⟩
  · intro s kind other now tokenId token hsign hother
    obtain ⟨claims, hmint, rfl⟩ := Option.map_eq_some_iff.mp hsign
    refine ⟨fun hshared => hshared.verify_eq hother _, fun hapart => ?_⟩
    exact (refused_or_collision hapart hother claims).imp_right fun hcollision => ⟨claims, hmint, hcollision⟩
  · intro access refresh hgiven hgiven'
    rw [haccess, hrefresh]
    exact ⟨SecretFile.resolve_of_given freshAccess hgiven, SecretFile.resolve_of_given freshRefresh hgiven'⟩
  · intro hnone hfile hnone' hfile'
    have haccess_drawn : c.accessSecret = freshAccess.text :=
      haccess.trans (SecretFile.resolve_of_none freshAccess hnone hfile)
    have hrefresh_drawn : c.refreshSecret = freshRefresh.text :=
      hrefresh.trans (SecretFile.resolve_of_none freshRefresh hnone' hfile')
    rw [SharesKey, haccess_drawn, hrefresh_drawn, Crypto.hmacKey_of_length_eq freshAccess.length_keyOf_text,
      Crypto.hmacKey_of_length_eq freshRefresh.length_keyOf_text]
    exact SignedToken.keyOf_injective.eq_iff

/-- An environment with a secret for each kind. -/
def sampleEnvironment (access refresh : String) : Environment :=
  [("JWT_SECRET", access), ("JWT_REFRESH_SECRET", refresh)]

/-- A quarter of an hour is a span. -/
theorem bounded_quarterHour : -Span.longest ≤ (900 : Int) ∧ (900 : Int) ≤ Span.longest := by decide

/-- Thirty days are a span. -/
theorem bounded_thirtyDays : -Span.longest ≤ (2592000 : Int) ∧ (2592000 : Int) ≤ Span.longest := by decide

/-- The configuration that it makes. -/
def sampleKinds (access refresh : String) : TokenConfig :=
  ⟨access, ⟨900, bounded_quarterHour⟩, refresh, ⟨2592000, bounded_thirtyDays⟩, Settings.developmentPassphrase⟩

theorem tokenConfig?_sampleEnvironment (access refresh : String) (haccess : access ≠ "") (hrefresh : refresh ≠ "")
    (freshAccess freshRefresh : FreshSecret) :
    (Settings.ofEnvironment (sampleEnvironment access refresh) {} freshAccess freshRefresh).1.tokenConfig? =
      some (sampleKinds access refresh) := by
  have hresolve (fresh : FreshSecret) {secret : String} (hsecret : secret ≠ "") :
      (({} : SecretFile).resolve (some secret) fresh).1 = secret :=
    SecretFile.resolve_of_given fresh (Option.filter_some_pos (decide_eq_true hsecret))
  have hsettings : (Settings.ofEnvironment (sampleEnvironment access refresh) {} freshAccess freshRefresh).1 =
      ⟨"127.0.0.1:4000", "postgres://localhost:5432/keel", (({} : SecretFile).resolve (some access) freshAccess).1,
        900, (({} : SecretFile).resolve (some refresh) freshRefresh).1, 2592000, Settings.developmentPassphrase,
        10000⟩ := rfl
  rw [hsettings, hresolve freshAccess haccess, hresolve freshRefresh hrefresh]
  rfl

/-- The claims of a refresh token of the sample. -/
def sampleRefreshClaims : Claims := Claims.minted ⟨"ada", "u1", "user"⟩ ⟨100, 0⟩ ⟨2592100, 0⟩ "1"

theorem add?_sampleKinds (access refresh : String) :
    (⟨100, 0⟩ : Instant).add? ((sampleKinds access refresh).lifetime .refresh) = some ⟨2592100, 0⟩ := by
  change (⟨100, 0⟩ : Instant).add? ⟨2592000, by decide⟩ = some ⟨2592100, 0⟩
  decide

theorem sign?_sampleKinds (access refresh : String) :
    (sampleKinds access refresh).sign? ⟨"ada", "u1", "user"⟩ .refresh ⟨100, 0⟩ "1" =
      some (SignedToken.sign refresh sampleRefreshClaims) := by
  rw [sign?, Claims.mint?_eq, add?_sampleKinds]
  rfl

/-- The refresh token of the sample is invalid as an access token, unless the keys "abc" and "abd" collide on
it. -/
theorem sample_kinds_are_apart :
    ∃ c token, (Settings.ofEnvironment (sampleEnvironment "abc" "abd") {} (.ofNat 0) (.ofNat 1)).1.tokenConfig? =
        some c ∧
      c.sign? ⟨"ada", "u1", "user"⟩ .refresh ⟨100, 0⟩ "1" = some token ∧ ¬ c.SharesKey ∧
      ((∀ checkExpiry later, c.verify token .access checkExpiry later = .error .invalidToken) ∨
        ∃ message, Crypto.Collision (Crypto.hmacInput (keyOf "abd") message)
          (Crypto.hmacInput (keyOf "abc") message)) := by
  have hc := tokenConfig?_sampleEnvironment "abc" "abd" (by decide) (by decide)
    (.ofNat 0) (.ofNat 1)
  have hsign := sign?_sampleKinds "abc" "abd"
  have hapart : ¬ (sampleKinds "abc" "abd").SharesKey := by
    have hblock : Crypto.hmacKey (keyOf "abc") ≠ Crypto.hmacKey (keyOf "abd") := by decide +kernel
    exact hblock
  obtain ⟨hkinds, -⟩ := kinds_are_apart_unless_key_is_shared _ _ _ _ hc
  obtain ⟨-, hrefused⟩ := hkinds _ _ .access _ _ _ hsign nofun
  refine ⟨_, _, hc, hsign, hapart, (hrefused hapart).imp_right ?_⟩
  rintro ⟨claims, -, hcollision⟩
  exact ⟨_, hcollision⟩

/-- With the same secret for both kinds, a refresh token passes as an access token, and long after an access token
would have expired. -/
theorem refresh_token_passes_as_access :
    ∃ c token claims,
      (Settings.ofEnvironment (sampleEnvironment "same" "same") {} (.ofNat 0) (.ofNat 1)).1.tokenConfig? = some c ∧
      c.sign? ⟨"ada", "u1", "user"⟩ .refresh ⟨100, 0⟩ "1" = some token ∧
      c.verify token .access true ⟨2592100, 0⟩ = .ok claims := by
  have hc := tokenConfig?_sampleEnvironment "same" "same" (by decide) (by decide)
    (.ofNat 0) (.ofNat 1)
  have hfits : sampleRefreshClaims.Fits := Claims.fits_minted (add?_sampleKinds "same" "same")
  refine ⟨_, _, sampleRefreshClaims, hc, sign?_sampleKinds "same" "same", ?_⟩
  exact ((sampleKinds "same" "same").verify_sign hfits .access true ⟨2592100, 0⟩).trans
    ((if_neg (by decide)).trans (if_neg (by decide)))

end TokenConfig

end Gatehouse

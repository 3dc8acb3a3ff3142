import Gatehouse.Auth.Lifecycle
import Gatehouse.Proofs.Auth.Seal
import Gatehouse.Proofs.Auth.SignedToken

/-!
# Minted tokens

A token is minted for a subject unless its expiry leaves the calendar. Then the times of its claims fit
a word (`Claims.fits_minted`), because a span is too short to reach the calendar from far outside, and so
whatever is minted verifies until it expires (`SignedToken.signed_verifies_until_expiry`, and for the tokens
of a configuration `TokenConfig.verify_minted`). A refresh token that was sealed is found in its record again
(`TokenConfig.storedToken_of_token_eq`).
-/

namespace Gatehouse

/-! ### Instants -/

namespace Instant

/-- The first second of the calendar, in numbers. -/
theorem firstSecond_eq : firstSecond = -8334601228800 := by decide +kernel

/-- The end of the calendar, in numbers. -/
theorem endSecond_eq : endSecond = 8210266876800 := by decide +kernel

/-- An earlier instant is in an earlier second or in the same one. -/
theorem second_le_of_before {t u : Instant} (h : t.before u = true) : t.second ≤ u.second := by
  refine Int.not_lt.mp fun hlt => ?_
  have hcmp : compare t.second u.second = .gt := Int.compare_eq_gt.mpr hlt
  simp [before, cmp, hcmp] at h

/-- A moved instant lies in the calendar, and within a second of where whole seconds put it. -/
theorem of_add?_eq_some {t u : Instant} {span : Span} (h : t.add? span = some u) :
    u.inCalendar = true ∧ t.second + span.seconds ≤ u.second ∧
      u.second ≤ t.second + span.seconds + 1 := by
  unfold add? at h
  dsimp only at h
  obtain ⟨hin, hmoved⟩ := Option.ite_none_right_eq_some.mp h
  obtain rfl := Option.some.inj hmoved
  refine ⟨hin, ?_⟩
  split
  · dsimp only
    omega
  · split <;> dsimp only <;> omega

/-- A moved instant is as many seconds away as the span is long, unless a leap second is moved back. -/
theorem second_of_add? {t u : Instant} {span : Span} (h : t.add? span = some u)
    (hleap : t.nano < nanosPerSecond ∨ 0 ≤ span.seconds) : u.second = t.second + span.seconds := by
  unfold add? at h
  dsimp only at h
  obtain ⟨-, hmoved⟩ := Option.ite_none_right_eq_some.mp h
  obtain rfl := Option.some.inj hmoved
  split
  next => rfl
  next hstays =>
    obtain ⟨hnano, hseconds⟩ : ¬ t.nano < nanosPerSecond ∧ span.seconds ≠ 0 := by simpa using hstays
    have hforward := hleap.resolve_left hnano
    rw [if_pos (by omega)]

end Instant

namespace Claims

/-- The claims of a token for a subject, minted at a time and with an expiry. -/
def minted (s : Subject) (now expiry : Instant) (tokenId : String) : Claims :=
  ⟨s.username, s.id, s.role, now.second, expiry.second, tokenId⟩

/-- Claims are minted unless their expiry lies outside the calendar. -/
theorem mint?_eq (s : Subject) (lifetime : Span) (now : Instant) (tokenId : String) :
    mint? s lifetime now tokenId = (now.add? lifetime).map fun expiry => minted s now expiry tokenId :=
  rfl

/-- The times of minted claims fit a word: the expiry lies in the calendar, and no span is so long that
it leads there from far outside. -/
theorem fits_minted {s : Subject} {lifetime : Span} {now expiry : Instant} {tokenId : String}
    (h : now.add? lifetime = some expiry) : (minted s now expiry tokenId).Fits := by
  obtain ⟨hin, hlow, hhigh⟩ := Instant.of_add?_eq_some h
  obtain ⟨hspan, hspan'⟩ := lifetime.bounded
  rw [Instant.inCalendar, Instant.firstSecond_eq, Instant.endSecond_eq, Bool.and_eq_true,
    decide_eq_true_eq, decide_eq_true_eq] at hin
  rw [Span.longest] at hspan hspan'
  constructor
  · constructor <;> dsimp only [minted] <;> omega
  · constructor <;> dsimp only [minted] <;> omega

end Claims

namespace SignedToken

/-- **What is signed for a subject verifies until it expires.** The claims are those of the subject, with the
lifetime between their times (a leap second that is moved back is not as far away). Under the key they were
signed with they are read again, whatever stands in their texts; from the second after the expiry on only by
whoever does not ask for it, and whoever asks is told that they have expired. -/
theorem signed_verifies_until_expiry (s : Subject) (key : Crypto.Bytes) (lifetime : Span)
    {now expiry : Instant} (tokenId : String) (hexpiry : now.add? lifetime = some expiry)
    (hera : 0 ≤ expiry.second) :
    ∃ claims, Claims.mint? s lifetime now tokenId = some claims ∧
      claims.subject = s ∧ claims.tokenId = tokenId ∧
      (now.nano < Instant.nanosPerSecond ∨ 0 ≤ lifetime.seconds →
        claims.expiresAt - claims.issuedAt = lifetime.seconds) ∧
      claims.issuedAt = now.second ∧ claims.expiresAt = expiry.second ∧
      ∀ later : Instant,
        verifyWith (signWith key claims) key false later = .ok claims ∧
        verifyWith (signWith key claims) key true later =
          if later.second ≤ claims.expiresAt then .ok claims else .error .expired := by
  refine ⟨Claims.minted s now expiry tokenId, ?_, rfl, rfl, fun hleap => ?_, rfl, rfl, fun later => ?_⟩
  · rw [Claims.mint?_eq, hexpiry]
    rfl
  · have hsecond := Instant.second_of_add? hexpiry hleap
    dsimp only [Claims.minted]
    omega
  · have hfits : (Claims.minted s now expiry tokenId).Fits := Claims.fits_minted hexpiry
    have hnonneg : ¬ (Claims.minted s now expiry tokenId).expiresAt < 0 := Int.not_lt.mpr hera
    rw [verifyWith_signWith key hfits, verifyWith_signWith key hfits, if_neg hnonneg, if_neg hnonneg]
    refine ⟨rfl, ?_⟩
    by_cases hlive : later.second ≤ (Claims.minted s now expiry tokenId).expiresAt
    · rw [if_pos hlive, if_neg (by simpa using hlive)]
    · rw [if_neg hlive, if_pos (by simpa using hlive)]

/-- A token that lives for 900 seconds and was signed at second 100 is accepted at second 1000 and has expired
one second later. -/
theorem sample_verifies_until_expiry :
    ∃ claims, Claims.mint? ⟨"Zoë\n\"", "u.1", ""⟩ ⟨900, by decide⟩ ⟨100, 5⟩ "1" = some claims ∧
      claims.subject = ⟨"Zoë\n\"", "u.1", ""⟩ ∧ claims.expiresAt - claims.issuedAt = 900 ∧
      verifyWith (signWith [255] claims) [255] true ⟨1000, 999999999⟩ = .ok claims ∧
      verifyWith (signWith [255] claims) [255] true ⟨1001, 0⟩ = .error .expired ∧
      verifyWith (signWith [255] claims) [255] false ⟨1001, 0⟩ = .ok claims := by
  have hadd : (⟨100, 5⟩ : Instant).add? ⟨900, by decide⟩ = some ⟨1000, 5⟩ := by decide
  obtain ⟨claims, hmint, hsubject, -, hlifetime, -, hexpiresAt, hverify⟩ :=
    signed_verifies_until_expiry ⟨"Zoë\n\"", "u.1", ""⟩ [255] _ "1" hadd (by decide)
  have hexpiry : claims.expiresAt = 1000 := hexpiresAt
  refine ⟨claims, hmint, hsubject, hlifetime (.inl (by decide)), ?_, ?_, (hverify ⟨1001, 0⟩).1⟩
  · rw [(hverify ⟨1000, 999999999⟩).2, if_pos (show 1000 ≤ claims.expiresAt by omega)]
  · rw [(hverify ⟨1001, 0⟩).2, if_neg (show ¬ 1001 ≤ claims.expiresAt by omega)]

end SignedToken

namespace TokenConfig

variable (c : TokenConfig)

/-- The expiries of an access token and of a refresh token that are minted at a time. -/
def expiries? (now : Instant) : Option (Instant × Instant) :=
  (now.add? c.accessLifetime).bind fun access =>
    (now.add? c.refreshLifetime).map fun refresh => (access, refresh)

/-- Both expiries lie in the calendar. -/
theorem expiries?_eq_some_iff {now access refresh : Instant} :
    c.expiries? now = some (access, refresh) ↔
      now.add? c.accessLifetime = some access ∧ now.add? c.refreshLifetime = some refresh := by
  rw [expiries?]
  cases now.add? c.accessLifetime with
  | none => simp
  | some a =>
    simp only [Option.bind_some, Option.map_eq_some_iff, Prod.mk.injEq, Option.some.injEq]
    exact ⟨fun ⟨_, h, ha, he⟩ => ⟨ha, he ▸ h⟩, fun ⟨ha, h⟩ => ⟨refresh, h, ha, rfl⟩⟩

/-- A token of a kind, minted for a subject at a time and with an expiry. -/
def minted (kind : TokenKind) (s : Subject) (now expiry : Instant) (id : Uuid) : String :=
  SignedToken.sign (c.secret kind) (Claims.minted s now expiry id.render)

/-- A token of a kind verifies to the claims to which it verifies under the secret of the kind. -/
theorem verify_eq_ok_iff {token : String} {kind : TokenKind} {checkExpiry : Bool} {now : Instant}
    {k : Claims} : c.verify token kind checkExpiry now = .ok k ↔
      SignedToken.verify token (c.secret kind) checkExpiry now = .ok k := by
  rw [verify]
  cases SignedToken.verify token (c.secret kind) checkExpiry now with
  | error e => exact ⟨nofun, nofun⟩
  | ok k' =>
    change Except.ok k' = Except.ok k ↔ _
    simp

/-- A token signed with the secret of a kind verifies as that kind until its claims expire. -/
theorem verify_sign {k : Claims} (h : k.Fits) (kind : TokenKind) (checkExpiry : Bool)
    (now : Instant) :
    c.verify (SignedToken.sign (c.secret kind) k) kind checkExpiry now =
      if k.expiresAt < 0 then .error .invalidToken
      else if checkExpiry && k.expiresAt < now.second then .error .expired
      else .ok k := by
  rw [verify, SignedToken.verify_sign _ h, apply_ite (Except.mapError _),
    apply_ite (Except.mapError _)]
  rfl

/-- A minted token verifies to its claims until they expire. -/
theorem verify_minted (kind : TokenKind) {s : Subject} {t expiry : Instant} {id : Uuid}
    (h : t.add? (c.lifetime kind) = some expiry) (checkExpiry : Bool) (now : Instant) :
    c.verify (c.minted kind s t expiry id) kind checkExpiry now =
      if expiry.second < 0 then .error .invalidToken
      else if checkExpiry && expiry.second < now.second then .error .expired
      else .ok (Claims.minted s t expiry id.render) :=
  c.verify_sign (Claims.fits_minted h) kind checkExpiry now

/-- A minted token verifies to its own claims, from 1970 on and until they expire. -/
theorem verify_minted_eq_ok_iff (kind : TokenKind) {s : Subject} {t expiry : Instant} {id : Uuid}
    (h : t.add? (c.lifetime kind) = some expiry) {checkExpiry : Bool} {now : Instant} {k : Claims} :
    c.verify (c.minted kind s t expiry id) kind checkExpiry now = .ok k ↔
      0 ≤ expiry.second ∧ (checkExpiry = true → now.second ≤ expiry.second) ∧
        k = Claims.minted s t expiry id.render := by
  rw [c.verify_minted kind h]
  constructor
  · intro hok
    split at hok
    · exact absurd hok (by simp)
    next hnonneg =>
    split at hok
    · exact absurd hok (by simp)
    next hpast =>
    exact ⟨Int.not_lt.mp hnonneg, by simpa using hpast, (Except.ok.inj hok).symm⟩
  · rintro ⟨hnonneg, hfuture, rfl⟩
    rw [if_neg (Int.not_lt.mpr hnonneg), if_neg (by simpa using hfuture)]

/-- Tokens of a kind that are minted at different seconds are different. -/
theorem minted_ne_of_second_ne (kind : TokenKind) {s s' : Subject} {t t' expiry expiry' : Instant}
    {id id' : Uuid} (h : t.add? (c.lifetime kind) = some expiry)
    (h' : t'.add? (c.lifetime kind) = some expiry') (hne : t.second ≠ t'.second) :
    c.minted kind s t expiry id ≠ c.minted kind s' t' expiry' id' := by
  intro hsign
  have hclaims := SignedToken.sign_injective (Claims.fits_minted h) (Claims.fits_minted h') hsign
  exact hne (congrArg Claims.issuedAt hclaims)

/-- A record that keeps a sealed token keeps that token. -/
theorem storedToken_of_token_eq {r : TokenRecord} {nonce : Nonce} {token : String}
    (h : r.token = c.sealToken nonce token) : c.storedToken r = .ok token := by
  rw [storedToken, reveal, h, sealToken, Sealed.reveal_ofText]
  rfl

end TokenConfig

end Gatehouse

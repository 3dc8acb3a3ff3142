import Gatehouse.Proofs.Auth.RefreshChecks

/-!
# Asking and refreshing agree

Whether a refresh token is alive is asked in one way and checked by a refresh in another: the refresh also compares
subjects, and it fails where the question is answered with no. On a store that files each record under its own
subject the two agree for every access token that verifies (`TokenConfig.refresh_accepts_iff_alive`): what is
alive, and of the same subject, is refreshed, and the question itself fails only where a refresh would fail for the
same cause.
-/

namespace Gatehouse

namespace TokenConfig

variable {c : TokenConfig} {access token : String} {now : Instant}
  {read : String → Except AuthError (Option TokenRecord)}

/-! ### Both over one read -/

/-- Whether a refresh token is alive, for what a read of a record tells. -/
def asks (c : TokenConfig) (token : String) (now : Instant)
    (read : String → Except AuthError (Option TokenRecord)) : Except AuthError Bool :=
  match c.verify token .refresh true now with
  | .error _ => .ok false
  | .ok k => (read k.sub).bind fun found => c.keepsAlive token found now

/-- A record keeps a token alive if it opens to it and has not expired. -/
theorem keepsAlive_some (c : TokenConfig) (token : String) (r : TokenRecord) (now : Instant) :
    c.keepsAlive token (some r) now =
      match Sealed.reveal c.sealPassphrase r.token with
      | .error fault => .error (.encryption fault)
      | .ok text => .ok (text = token && now.before r.expiresAt) := by
  rw [keepsAlive, storedToken, reveal]
  cases Sealed.reveal c.sealPassphrase r.token with
  | error fault => rfl
  | ok text => rfl

/-- **Tokens pass all checks exactly if the refresh token is alive and both are of one subject.** -/
theorem exists_checks_eq_ok_iff {a : Claims} (haccess : c.verify access .access false now = .ok a)
    (hfiled : ∀ subject r, read subject = .ok (some r) → r.subject = subject) :
    (∃ passed, c.checks access token now read = .ok passed) ↔
      c.asks token now read = .ok true ∧ ∃ k, c.verify token .refresh true now = .ok k ∧ k.sub = a.sub := by
  constructor
  · rintro ⟨⟨k, r⟩, hchecks⟩
    obtain ⟨a', haccess', hk, hread, hsubject, hsubject', hstored, halive⟩ := checks_eq_ok_iff.mp hchecks
    obtain rfl := Except.ok.inj (haccess.symm.trans haccess')
    refine ⟨?_, k, hk, hsubject'.trans hsubject.symm⟩
    rw [asks, hk]
    dsimp only
    rw [hread]
    change c.keepsAlive token (some r) now = _
    rw [keepsAlive, hstored, halive]
    simp [Except.map]
  · rintro ⟨hasks, k, hk, hsub⟩
    rw [asks, hk] at hasks
    obtain ⟨found, hread, halive⟩ := bind_eq_ok_iff.mp hasks
    cases found with
    | none => exact absurd (Except.ok.inj halive) (by decide)
    | some r =>
      obtain ⟨stored, hstored, hboth⟩ := map_eq_ok_iff.mp halive
      obtain ⟨htoken, hexpiry⟩ := Bool.and_eq_true_iff.mp hboth
      obtain rfl : stored = token := of_decide_eq_true htoken
      have hsubject := hfiled k.sub r hread
      exact ⟨(k, r), checks_eq_ok_iff.mpr
        ⟨a, haccess, hk, hread, hsub.symm.trans hsubject.symm, hsubject.symm, hstored, hexpiry⟩⟩

/-- What fails for want of authenticity fails neither for a sealed text nor for the store. -/
theorem not_fault_of_authentication {α : Type} {failure : AuthFailure} {e : AuthError}
    (h : (.error (.authentication failure) : Except AuthError α) = .error e) :
    ¬ ((∃ fault, e = .encryption fault) ∨ ∃ fault, e = .store fault) := by
  obtain rfl := Except.error.inj h
  simp

/-- **The question fails exactly where the checks fail for a sealed text that does not open or for the store**, and
for the same cause. -/
theorem asks_eq_error_iff {a k : Claims} (haccess : c.verify access .access false now = .ok a)
    (hk : c.verify token .refresh true now = .ok k) (hsub : k.sub = a.sub)
    (hfiled : ∀ subject r, read subject = .ok (some r) → r.subject = subject)
    (hfault : ∀ subject e, read subject = .error e → ∃ fault, e = .store fault) {e : AuthError} :
    c.asks token now read = .error e ↔
      c.checks access token now read = .error e ∧
        ((∃ fault, e = .encryption fault) ∨ ∃ fault, e = .store fault) := by
  have hasks : c.asks token now read = (read k.sub).bind fun found => c.keepsAlive token found now := by
    rw [asks, hk]
  have hchecks : c.checks access token now read = (read k.sub).bind fun found =>
      (c.checkRecord a k token found now).map fun r => (k, r) := by
    rw [checks, c.checkTokens_eq_ok_iff.mpr ⟨haccess, hk⟩]
    rfl
  rw [hasks, hchecks]
  cases hread : read k.sub with
  | error e' =>
    obtain ⟨fault, rfl⟩ := hfault k.sub e' hread
    constructor
    · intro h
      obtain rfl : AuthError.store fault = e := Except.error.inj h
      exact ⟨rfl, .inr ⟨fault, rfl⟩⟩
    · rintro ⟨h, -⟩
      exact congrArg _ (Except.error.inj h)
  | ok found =>
  cases found with
  | none =>
    -- a missing record is no failure for the question, and not for such a cause for a refresh
    constructor
    · intro h
      cases h
    · rintro ⟨h, hcause⟩
      exact absurd hcause (not_fault_of_authentication h)
  | some r =>
  have hsubject := hfiled k.sub r hread
  change c.keepsAlive token (some r) now = _ ↔
    (c.checkRecord a k token (some r) now).map (fun r => (k, r)) = _ ∧ _
  rw [keepsAlive_some, checkRecord_some, if_neg (by simp [hsubject, hsub])]
  cases Sealed.reveal c.sealPassphrase r.token with
  | error fault =>
    constructor
    · intro h
      obtain rfl : AuthError.encryption fault = e := Except.error.inj h
      exact ⟨rfl, .inl ⟨fault, rfl⟩⟩
    · rintro ⟨h, -⟩
      exact congrArg _ (Except.error.inj h)
  | ok text =>
    -- the text opens: whatever fails now is not authentic
    constructor
    · intro h
      cases h
    · rintro ⟨h, hcause⟩
      dsimp only at h
      split at h
      · exact absurd hcause (not_fault_of_authentication h)
      split at h
      · exact absurd hcause (not_fault_of_authentication h)
      · cases h

/-! ### On a store without another writer -/

section Undisturbed

variable {σ : Type} {store : RecordAccess σ} {records : σ → RecordStore} {s : σ}

/-- The question is answered from one read, and changes nothing. -/
theorem verifyRefreshToken_of_undisturbed (h : store.Undisturbed records s) (c : TokenConfig) (token : String)
    (now : Instant) :
    (c.verifyRefreshToken store token now s).1 = c.asks token now (fun subject => (store.find subject s).1) ∧
      records (c.verifyRefreshToken store token now s).2 = records s := by
  rw [verifyRefreshToken_apply, asks]
  cases c.verify token .refresh true now with
  | error failure => exact ⟨rfl, rfl⟩
  | ok k =>
    have hkept := h.kept k.sub
    dsimp only
    generalize store.find k.sub s = outcome at hkept ⊢
    obtain ⟨e | found, s'⟩ := outcome
    · exact ⟨rfl, hkept⟩
    · exact ⟨rfl, hkept⟩

/-- **A refresh accepts exactly what is alive**, at every instant and whatever the records hold, as long as each is
filed under its own subject and expiries lie in the calendar. Asking changes nothing, and it fails exactly where a
refresh fails for a sealed text that does not open or for the store. -/
theorem refresh_accepts_iff_alive (h : store.Undisturbed records s)
    (hfiled : ∀ subject r, (records s).find subject = some r → r.subject = subject)
    (hexpiries : (c.expiries? now).isSome = true) :
    (∀ token, records (c.verifyRefreshToken store token now s).2 = records s) ∧
    ∀ access token accessId a, c.verify access .access false now = .ok a →
      ((c.refresh store access token now accessId s).1.isOk = true ↔
        (c.verifyRefreshToken store token now s).1 = .ok true ∧
          ∃ k, c.verify token .refresh true now = .ok k ∧ k.sub = a.sub) ∧
      ∀ k, c.verify token .refresh true now = .ok k → k.sub = a.sub → ∀ e,
        (c.verifyRefreshToken store token now s).1 = .error e ↔
          (c.refresh store access token now accessId s).1 = .error (.error e) ∧
            ((∃ fault, e = .encryption fault) ∨ ∃ fault, e = .store fault) := by
  have hread (subject : String) (r : TokenRecord) (hfound : (store.find subject s).1 = .ok (some r)) :
      r.subject = subject :=
    hfiled subject r (h.told subject _ hfound).symm
  refine ⟨fun token => (verifyRefreshToken_of_undisturbed h c token now).2, ?_⟩
  intro access token accessId a haccess
  rw [(verifyRefreshToken_of_undisturbed h c token now).1]
  constructor
  · rw [isOk_refresh_iff_checks h, exists_checks_eq_ok_iff haccess hread]
    exact and_iff_right hexpiries
  · intro k hk hsub e
    rw [refresh_eq_error_iff h]
    exact asks_eq_error_iff haccess hk hsub hread h.fault

end Undisturbed

/-! ### A sample -/

/-- A record that keeps a token until the fourth second. -/
def sampleKept (token : String) : TokenRecord :=
  ⟨"r1", "u1", sampleConfig.sealToken sampleDraws.nonce token, ⟨4, 0⟩, 7, ⟨0, 0⟩, ⟨0, 0⟩⟩

/-- In the third second the token is alive, and is refreshed. -/
theorem sample_refreshed_while_alive :
    ∃ access token : String,
      (sampleConfig.verifyRefreshToken Memory.recordAccess token ⟨3, 0⟩
        { records := ⟨[("u1", sampleKept token)]⟩ }).1 = .ok true ∧
      (sampleConfig.refresh Memory.recordAccess access token ⟨3, 0⟩ ⟨5⟩
        { records := ⟨[("u1", sampleKept token)]⟩ }).1.isOk = true := by
  let access := sampleConfig.minted .access sampleSubject ⟨0, 0⟩ ⟨900, 0⟩ ⟨1⟩
  let token := sampleConfig.minted .refresh sampleSubject ⟨0, 0⟩ ⟨4, 0⟩ ⟨2⟩
  let m : Memory := { records := ⟨[("u1", sampleKept token)]⟩ }
  have ha : sampleConfig.verify access .access false ⟨3, 0⟩ =
      .ok (Claims.minted sampleSubject ⟨0, 0⟩ ⟨900, 0⟩ (Uuid.render ⟨1⟩)) :=
    (sampleConfig.verify_minted_eq_ok_iff .access (by decide)).mpr ⟨by decide, by decide, rfl⟩
  have hk : sampleConfig.verify token .refresh true ⟨3, 0⟩ =
      .ok (Claims.minted sampleSubject ⟨0, 0⟩ ⟨4, 0⟩ (Uuid.render ⟨2⟩)) :=
    (sampleConfig.verify_minted_eq_ok_iff .refresh (by decide)).mpr ⟨by decide, by decide, rfl⟩
  have hfiled : ∀ subject r, m.records.find subject = some r → r.subject = subject := by
    intro subject r hfind
    obtain ⟨rfl, rfl⟩ := List.mem_singleton.mp (Assoc.mem_of_get? hfind)
    rfl
  have halive : (sampleConfig.verifyRefreshToken Memory.recordAccess token ⟨3, 0⟩ m).1 = .ok true := by
    rw [verifyRefreshToken_eq, hk]
    change sampleConfig.keepsAlive token (some (sampleKept token)) ⟨3, 0⟩ = _
    have hbefore : Instant.before ⟨3, 0⟩ ⟨4, 0⟩ = true := by decide
    have hstored : sampleConfig.storedToken (sampleKept token) = .ok token :=
      sampleConfig.storedToken_of_token_eq rfl
    rw [keepsAlive, hstored]
    simp [Except.map, sampleKept, hbefore]
  have hexpiries : (sampleConfig.expiries? ⟨3, 0⟩).isSome = true := by decide
  obtain ⟨-, hagree⟩ := refresh_accepts_iff_alive m.undisturbed hfiled hexpiries
  exact ⟨access, token, halive, (hagree access token ⟨5⟩ _ ha).1.mpr ⟨halive, _, hk, rfl⟩⟩

end TokenConfig

end Gatehouse

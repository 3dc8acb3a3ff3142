import Gatehouse.Proofs.Auth.Lifecycle
import Gatehouse.Proofs.FirstFault

/-!
# The checks of a refresh, in their order

A refresh looks at four things: two tokens, what the store reads for the subject of the refresh token, and the
clock. It makes eight checks on them, of which several can fail at once. When a check fails is said for each by
itself (`RefreshCheck.Fails`), and the order of the checks is said apart (`RefreshCheck.place`). A refresh fails
for the first check that fails, and then changes nothing; else it writes a new expiry to the one record
(`TokenConfig.refresh_fails_at_first_check`).

This holds on any store that is not disturbed between a read and the next write
(`RecordAccess.Undisturbed`): in memory, behind closed connections, and where the next read fails.
-/

namespace Gatehouse

/-! ### Stores without another writer -/

/-- In a state, a store reads what `records` says, or is at fault; and no other writer comes between this read and
the write after it. -/
structure RecordAccess.Undisturbed {σ : Type} (store : RecordAccess σ) (records : σ → RecordStore) (s : σ) :
    Prop where
  /-- What is read is what is kept under the subject. -/
  told : ∀ subject found, (store.find subject s).1 = .ok found → found = (records s).find subject
  /-- A read fails for a fault of the store alone. -/
  fault : ∀ subject e, (store.find subject s).1 = .error e → ∃ fault, e = .store fault
  /-- A read changes nothing. -/
  kept : ∀ subject, records (store.find subject s).2 = records s
  /-- A write after a read extends the records as they were read. -/
  extend : ∀ subject found key version expiresAt now, (store.find subject s).1 = .ok found →
    (store.extend key version expiresAt now (store.find subject s).2).1 =
        .ok ((records s).extend key version expiresAt now).1 ∧
      records (store.extend key version expiresAt now (store.find subject s).2).2 =
        ((records s).extend key version expiresAt now).2

theorem Memory.undisturbed (m : Memory) : recordAccess.Undisturbed Memory.records m where
  told _ _ h := (Except.ok.inj h).symm
  fault _ _ h := absurd h nofun
  kept _ := rfl
  extend _ _ _ _ _ _ _ := ⟨rfl, rfl⟩

theorem Closed.undisturbed {σ : Type} (records : σ → RecordStore) (s : σ) :
    Closed.recordAccess.Undisturbed records s where
  told _ _ h := absurd h nofun
  fault _ _ h := ⟨.closed, (Except.error.inj h).symm⟩
  kept _ := rfl
  extend _ _ _ _ _ _ h := absurd h nofun

/-- No race is armed, or only that the next read fails. -/
theorem Disturbed.undisturbed {σ : Type} {store : RecordAccess σ} {records : σ → RecordStore} {d : Disturbed σ}
    (h : store.Undisturbed records d.base) (hrace : d.race = none ∨ d.race = some .fails) :
    (recordAccess store).Undisturbed (fun d => records d.base) d := by
  obtain ⟨base, race, hook⟩ := d
  rcases hrace with rfl | rfl
  · exact ⟨h.told, h.fault, h.kept, h.extend⟩
  · exact ⟨fun _ _ h => absurd h nofun, fun _ _ h => ⟨.closed, (Except.error.inj h).symm⟩, fun _ => rfl,
      fun _ _ _ _ _ _ h => absurd h nofun⟩

/-! ### The checks -/

/-- The checks of a refresh. -/
inductive RefreshCheck where
  /-- The access token verifies, be it expired or not. -/
  | accessToken
  /-- The refresh token verifies and has not expired. -/
  | refreshToken
  /-- The store reads the record of the refresh token's subject. -/
  | read
  /-- There is one. -/
  | present
  /-- It is of the subject of both tokens. -/
  | subjects
  /-- Its sealed text opens. -/
  | opens
  /-- The text is the refresh token. -/
  | current
  /-- It has not expired. -/
  | alive

namespace RefreshCheck

/-- The place of a check in their order. -/
def place : RefreshCheck → Nat
  | .accessToken => 1
  | .refreshToken => 2
  | .read => 3
  | .present => 4
  | .subjects => 5
  | .opens => 6
  | .current => 7
  | .alive => 8

instance : LT RefreshCheck := ⟨fun a b => a.place < b.place⟩

instance : Std.Asymm (α := RefreshCheck) (· < ·) := ⟨fun _ _ h h' => Nat.lt_asymm h h'⟩

/-- A check fails for a cause. Each looks at what it needs, and at no other check. -/
inductive Fails (c : TokenConfig) (access token : String) (now : Instant)
    (read : String → Except AuthError (Option TokenRecord)) : RefreshCheck → AuthError → Prop
  | accessToken {failure : AuthFailure} (h : c.verify access .access false now = .error failure) :
      Fails c access token now read .accessToken (.authentication failure)
  | refreshToken {failure : AuthFailure} (h : c.verify token .refresh true now = .error failure) :
      Fails c access token now read .refreshToken (.authentication failure)
  | read {k : Claims} {e : AuthError} (hk : c.verify token .refresh true now = .ok k)
      (h : read k.sub = .error e) : Fails c access token now read .read e
  | present {k : Claims} (hk : c.verify token .refresh true now = .ok k) (h : read k.sub = .ok none) :
      Fails c access token now read .present (.authentication .recordMissing)
  | subjects {a k : Claims} {r : TokenRecord} (ha : c.verify access .access false now = .ok a)
      (hk : c.verify token .refresh true now = .ok k) (hr : read k.sub = .ok (some r))
      (h : a.sub ≠ r.subject ∨ k.sub ≠ r.subject) :
      Fails c access token now read .subjects (.authentication .subjectMismatch)
  | opens {k : Claims} {r : TokenRecord} {fault : Sealed.Fault}
      (hk : c.verify token .refresh true now = .ok k) (hr : read k.sub = .ok (some r))
      (h : Sealed.reveal c.sealPassphrase r.token = .error fault) :
      Fails c access token now read .opens (.encryption fault)
  | current {k : Claims} {r : TokenRecord} {text : String} (hk : c.verify token .refresh true now = .ok k)
      (hr : read k.sub = .ok (some r)) (hopens : Sealed.reveal c.sealPassphrase r.token = .ok text)
      (h : text ≠ token) : Fails c access token now read .current (.authentication .superseded)
  | alive {k : Claims} {r : TokenRecord} (hk : c.verify token .refresh true now = .ok k)
      (hr : read k.sub = .ok (some r)) (h : now.before r.expiresAt = false) :
      Fails c access token now read .alive (.authentication .recordExpired)

end RefreshCheck

namespace TokenConfig

variable {c : TokenConfig} {access token : String} {now : Instant}
  {read : String → Except AuthError (Option TokenRecord)}

/-- The checks of a refresh, for what a read of a record tells. -/
def checks (c : TokenConfig) (access token : String) (now : Instant)
    (read : String → Except AuthError (Option TokenRecord)) : Except AuthError (Claims × TokenRecord) :=
  (c.checkTokens access token now).bind fun claims =>
    (read claims.2.sub).bind fun found =>
      (c.checkRecord claims.1 claims.2 token found now).map fun r => (claims.2, r)

/-- The checks of a record that was found, one after the other. -/
theorem checkRecord_some (c : TokenConfig) (a k : Claims) (token : String) (r : TokenRecord) (now : Instant) :
    c.checkRecord a k token (some r) now =
      if a.sub ≠ r.subject ∨ k.sub ≠ r.subject then .error (.authentication .subjectMismatch)
      else match Sealed.reveal c.sealPassphrase r.token with
        | .error fault => .error (.encryption fault)
        | .ok text =>
          if text ≠ token then .error (.authentication .superseded)
          else if now.before r.expiresAt = false then .error (.authentication .recordExpired)
          else .ok r := by
  unfold checkRecord
  dsimp only
  by_cases hsub : a.sub ≠ r.subject ∨ k.sub ≠ r.subject
  · rw [if_pos hsub, if_pos (by simpa using hsub)]
    rfl
  · rw [if_neg hsub, if_neg (by simpa using hsub), storedToken, reveal]
    cases Sealed.reveal c.sealPassphrase r.token with
    | error fault => rfl
    | ok text =>
      change (if text ≠ token then throw _ else if (!now.before r.expiresAt) = true then throw _ else pure r) = _
      simp only [Bool.not_eq_true']
      rfl

/-- A check that fails is the first one if no other fails that is not after it. -/
theorem isFirst_of_fails {check : RefreshCheck} {e : AuthError}
    (h : RefreshCheck.Fails c access token now read check e)
    (hothers : ∀ other e', RefreshCheck.Fails c access token now read other e' → other.place ≤ check.place →
      other = check ∧ e' = e) : IsFirst (RefreshCheck.Fails c access token now read) check e where
  fault := h
  others other e' hfails := by
    by_cases hle : other.place ≤ check.place
    · exact .inl (hothers other e' hfails hle)
    · exact .inr (Nat.lt_of_not_le hle)

/-- **The checks report the first that fails.** -/
theorem reports_checks : Reports (c.checks access token now read) (RefreshCheck.Fails c access token now read) := by
  rw [checks, checkTokens]
  -- where a check fails, a failure of an earlier one contradicts what is known of the inputs by then
  cases ha : c.verify access .access false now with
  | error failure =>
    refine Reports.of_isFirst (isFirst_of_fails (.accessToken ha) ?_)
    intro other e h hle
    cases h <;> simp_all [RefreshCheck.place]
  | ok a =>
  cases hk : c.verify token .refresh true now with
  | error failure =>
    refine Reports.of_isFirst (isFirst_of_fails (.refreshToken hk) ?_)
    intro other e h hle
    cases h <;> simp_all [RefreshCheck.place]
  | ok k =>
  change Reports ((read k.sub).bind fun found => (c.checkRecord a k token found now).map fun r => (k, r)) _
  cases hread : read k.sub with
  | error e =>
    refine Reports.of_isFirst (isFirst_of_fails (.read hk hread) ?_)
    intro other e h hle
    cases h <;> simp_all [RefreshCheck.place]
  | ok found =>
  cases found with
  | none =>
    refine Reports.of_isFirst (isFirst_of_fails (.present hk hread) ?_)
    intro other e h hle
    cases h <;> simp_all [RefreshCheck.place]
  | some r =>
  change Reports ((c.checkRecord a k token (some r) now).map fun r => (k, r)) _
  refine Reports.map ?_ _
  rw [checkRecord_some]
  by_cases hsub : a.sub ≠ r.subject ∨ k.sub ≠ r.subject
  · rw [if_pos hsub]
    refine Reports.of_isFirst (isFirst_of_fails (.subjects ha hk hread hsub) ?_)
    intro other e h hle
    cases h <;> simp_all [RefreshCheck.place]
  rw [if_neg hsub]
  cases hopens : Sealed.reveal c.sealPassphrase r.token with
  | error fault =>
    refine Reports.of_isFirst (isFirst_of_fails (.opens hk hread hopens) ?_)
    intro other e h hle
    cases h <;> simp_all [RefreshCheck.place]
  | ok text =>
  dsimp only
  by_cases htext : text ≠ token
  · rw [if_pos htext]
    refine Reports.of_isFirst (isFirst_of_fails (.current hk hread hopens htext) ?_)
    intro other e h hle
    cases h <;> simp_all [RefreshCheck.place]
  rw [if_neg htext]
  by_cases halive : now.before r.expiresAt = false
  · rw [if_pos halive]
    refine Reports.of_isFirst (isFirst_of_fails (.alive hk hread halive) ?_)
    intro other e h hle
    cases h <;> simp_all [RefreshCheck.place]
  rw [if_neg halive]
  refine Reports.of_clean ?_
  intro other e h
  cases h <;> simp_all

/-- Of tokens that verify, with a record that is found, the record is checked. -/
theorem checks_of_read {a k : Claims} {r : TokenRecord} (ha : c.verify access .access false now = .ok a)
    (hk : c.verify token .refresh true now = .ok k) (hr : read k.sub = .ok (some r)) :
    c.checks access token now read = (c.checkRecord a k token (some r) now).map fun r => (k, r) := by
  rw [checks, c.checkTokens_eq_ok_iff.mpr ⟨ha, hk⟩]
  change (read k.sub).bind _ = _
  rw [hr]
  rfl

/-- What passes all checks. -/
theorem checks_eq_ok_iff {k : Claims} {r : TokenRecord} :
    c.checks access token now read = .ok (k, r) ↔
      ∃ a, c.verify access .access false now = .ok a ∧ c.verify token .refresh true now = .ok k ∧
        read k.sub = .ok (some r) ∧ a.sub = r.subject ∧ k.sub = r.subject ∧ c.storedToken r = .ok token ∧
        now.before r.expiresAt = true := by
  rw [checks, bind_eq_ok_iff]
  simp only [bind_eq_ok_iff, map_eq_ok_iff, Prod.exists, checkTokens_eq_ok_iff, Prod.mk.injEq]
  constructor
  · rintro ⟨a, k', ⟨ha, hk⟩, found, hread, r', hrecord, rfl, rfl⟩
    obtain ⟨rfl, hchecked⟩ := c.checkRecord_eq_ok_iff.mp hrecord
    exact ⟨a, ha, hk, hread, hchecked⟩
  · rintro ⟨a, ha, hk, hread, hchecked⟩
    exact ⟨a, k, ⟨ha, hk⟩, some r, hread, r, c.checkRecord_eq_ok_iff.mpr ⟨rfl, hchecked⟩, rfl, rfl⟩

/-! ### A refresh on a store without another writer -/

section Undisturbed

variable {σ : Type} {store : RecordAccess σ} {records : σ → RecordStore} {s : σ}

/-- What the checks refuse is refused for that cause, and changes nothing. -/
theorem refresh_of_checks_eq_error (h : store.Undisturbed records s) {e : AuthError}
    (hchecks : c.checks access token now (fun subject => (store.find subject s).1) = .error e) (accessId : Uuid) :
    (c.refresh store access token now accessId s).1 = .error (.error e) ∧
      records (c.refresh store access token now accessId s).2 = records s := by
  rw [refresh_apply]
  rw [checks] at hchecks
  generalize c.checkTokens access token now = tokens at hchecks ⊢
  rcases tokens with e' | ⟨a, k⟩
  · obtain rfl : e' = e := Except.error.inj hchecks
    exact ⟨rfl, rfl⟩
  have hkept := h.kept k.sub
  change (store.find k.sub s).1.bind _ = _ at hchecks
  dsimp only
  generalize store.find k.sub s = outcome at hchecks hkept ⊢
  obtain ⟨e' | found, s'⟩ := outcome
  · obtain rfl : e' = e := Except.error.inj hchecks
    exact ⟨rfl, hkept⟩
  change (c.checkRecord a k token found now).map _ = _ at hchecks
  dsimp only
  generalize c.checkRecord a k token found now = checked at hchecks ⊢
  rcases checked with e' | r
  · obtain rfl : e' = e := Except.error.inj hchecks
    exact ⟨rfl, hkept⟩
  · exact absurd hchecks nofun

/-- What passes the checks is renewed, unless an expiry lies outside the calendar. -/
theorem refresh_of_checks_eq_ok (h : store.Undisturbed records s) {k : Claims} {r : TokenRecord}
    (hchecks : c.checks access token now (fun subject => (store.find subject s).1) = .ok (k, r))
    (accessId : Uuid) :
    match c.expiries? now with
    | none => (c.refresh store access token now accessId s).1 = .error .overflow ∧
        records (c.refresh store access token now accessId s).2 = records s
    | some (accessExpiry, expiry) =>
      (c.refresh store access token now accessId s).1 =
          .ok ⟨c.minted .access k.subject now accessExpiry accessId, token, RecordStore.extended r expiry now⟩ ∧
        records (c.refresh store access token now accessId s).2 =
          (records s).write k.sub (RecordStore.extended r expiry now) := by
  obtain ⟨a, ha, hk, hread, hsubject, hsubject', hstored, halive⟩ := checks_eq_ok_iff.mp hchecks
  have htokens : c.checkTokens access token now = .ok (a, k) := c.checkTokens_eq_ok_iff.mpr ⟨ha, hk⟩
  have hrecord : c.checkRecord a k token (some r) now = .ok r :=
    c.checkRecord_eq_ok_iff.mpr ⟨rfl, hsubject, hsubject', hstored, halive⟩
  have htold := h.told k.sub _ hread
  have hkept := h.kept k.sub
  have hextend := fun expiry => h.extend k.sub (some r) r.subject r.version expiry now hread
  rw [refresh_apply, htokens]
  dsimp only at hread ⊢
  generalize store.find k.sub s = outcome at hread hkept hextend ⊢
  obtain ⟨_, s'⟩ := outcome
  obtain rfl := hread
  dsimp only at hkept hextend ⊢
  rw [hrecord]
  dsimp only
  rw [renew_apply]
  cases c.expiries? now with
  | none => exact ⟨rfl, hkept⟩
  | some expiries =>
    obtain ⟨accessExpiry, expiry⟩ := expiries
    -- the record was read in the same breath, so it still has the version that was read
    have hwritten : (records s).extend r.subject r.version expiry now =
        (some (RecordStore.extended r expiry now), (records s).write k.sub (RecordStore.extended r expiry now)) := by
      rw [RecordStore.extend_eq, ← hsubject', ← htold]
      exact if_pos rfl
    have hextended := hextend expiry
    rw [hwritten] at hextended
    dsimp only
    generalize store.extend r.subject r.version expiry now s' = outcome at hextended ⊢
    obtain ⟨_, s''⟩ := outcome
    obtain ⟨rfl, hrecords⟩ := hextended
    exact ⟨rfl, hrecords⟩

/-- What a refresh does, case by case. -/
theorem refresh_cases (h : store.Undisturbed records s) (accessId : Uuid) :
    (∃ e, c.checks access token now (fun subject => (store.find subject s).1) = .error e ∧
      (c.refresh store access token now accessId s).1 = .error (.error e) ∧
      records (c.refresh store access token now accessId s).2 = records s) ∨
    (∃ passed, c.checks access token now (fun subject => (store.find subject s).1) = .ok passed ∧
      c.expiries? now = none ∧ (c.refresh store access token now accessId s).1 = .error .overflow ∧
      records (c.refresh store access token now accessId s).2 = records s) ∨
    ∃ k r accessExpiry expiry, c.checks access token now (fun subject => (store.find subject s).1) = .ok (k, r) ∧
      c.expiries? now = some (accessExpiry, expiry) ∧
      (c.refresh store access token now accessId s).1 =
        .ok ⟨c.minted .access k.subject now accessExpiry accessId, token, RecordStore.extended r expiry now⟩ ∧
      records (c.refresh store access token now accessId s).2 =
        (records s).write k.sub (RecordStore.extended r expiry now) := by
  cases hchecks : c.checks access token now fun subject => (store.find subject s).1 with
  | error e => exact .inl ⟨e, rfl, refresh_of_checks_eq_error h hchecks accessId⟩
  | ok passed =>
    obtain ⟨k, r⟩ := passed
    have hok := refresh_of_checks_eq_ok h hchecks accessId
    cases hexpiries : c.expiries? now with
    | none =>
      rw [hexpiries] at hok
      exact .inr (.inl ⟨_, rfl, rfl, hok⟩)
    | some expiries =>
      rw [hexpiries] at hok
      exact .inr (.inr ⟨k, r, expiries.1, expiries.2, rfl, rfl, hok⟩)

/-- A refresh fails for what its checks fail. -/
theorem refresh_eq_error_iff (h : store.Undisturbed records s) (accessId : Uuid) {e : AuthError} :
    (c.refresh store access token now accessId s).1 = .error (.error e) ↔
      c.checks access token now (fun subject => (store.find subject s).1) = .error e := by
  rcases refresh_cases h accessId with ⟨e', hchecks, hresult, -⟩ | ⟨_, hchecks, -, hresult, -⟩ |
    ⟨_, _, _, _, hchecks, -, hresult, -⟩
  · rw [hchecks, hresult]
    simp
  · rw [hchecks, hresult]
    simp
  · rw [hchecks, hresult]
    simp

/-- A refresh runs out of the calendar if its checks are passed and an expiry lies outside. -/
theorem refresh_eq_overflow_iff (h : store.Undisturbed records s) (accessId : Uuid) :
    (c.refresh store access token now accessId s).1 = .error .overflow ↔
      c.expiries? now = none ∧
        ∃ passed, c.checks access token now (fun subject => (store.find subject s).1) = .ok passed := by
  rcases refresh_cases h accessId with ⟨e', hchecks, hresult, -⟩ | ⟨_, hchecks, hexpiries, hresult, -⟩ |
    ⟨_, _, _, _, hchecks, hexpiries, hresult, -⟩
  · rw [hchecks, hresult]
    simp
  · rw [hchecks, hresult, hexpiries]
    simp
  · rw [hchecks, hresult, hexpiries]
    simp

/-- A refresh answers if its checks are passed and the expiries lie in the calendar. -/
theorem isOk_refresh_iff_checks (h : store.Undisturbed records s) (accessId : Uuid) :
    (c.refresh store access token now accessId s).1.isOk = true ↔
      (c.expiries? now).isSome = true ∧
        ∃ passed, c.checks access token now (fun subject => (store.find subject s).1) = .ok passed := by
  rcases refresh_cases h accessId with ⟨e', hchecks, hresult, -⟩ | ⟨_, hchecks, hexpiries, hresult, -⟩ |
    ⟨_, _, _, _, hchecks, hexpiries, hresult, -⟩
  · rw [hchecks, hresult]
    simp [Except.isOk, Except.toBool]
  · rw [hchecks, hresult, hexpiries]
    simp [Except.isOk, Except.toBool]
  · rw [hchecks, hresult, hexpiries]
    simp [Except.isOk, Except.toBool]

/-- A refresh that fails changes nothing. -/
theorem records_refresh_of_not_isOk (h : store.Undisturbed records s) {accessId : Uuid}
    (hfailed : (c.refresh store access token now accessId s).1.isOk = false) :
    records (c.refresh store access token now accessId s).2 = records s := by
  rcases refresh_cases h accessId with ⟨_, -, -, hkept⟩ | ⟨_, -, -, -, hkept⟩ | ⟨_, _, _, _, -, -, hresult, -⟩
  · exact hkept
  · exact hkept
  · rw [hresult] at hfailed
    cases hfailed

/-- **A refresh fails at the first check that fails**, for its cause, and changes nothing. Where no check fails it
answers, unless an expiry lies outside the calendar: with the refresh token, and an access token for whom the
refresh token names; of all that the store keeps it has changed the one record, and of that the expiry, the version
and the time of the change. -/
theorem refresh_fails_at_first_check (h : store.Undisturbed records s) {accessId : Uuid}
    {result : Except (Stop AuthError) IssuedTokens} {after : σ}
    (hrefresh : c.refresh store access token now accessId s = (result, after)) :
    (∀ e, result = .error (.error e) ↔ ∃ check,
      IsFirst (RefreshCheck.Fails c access token now fun subject => (store.find subject s).1) check e) ∧
    (result = .error .overflow ↔ c.expiries? now = none ∧ ∀ check e,
      ¬ RefreshCheck.Fails c access token now (fun subject => (store.find subject s).1) check e) ∧
    (result.isOk = false → records after = records s) ∧
    ∀ issued, result = .ok issued → ∃ k r expiry,
      c.verify token .refresh true now = .ok k ∧ (records s).find k.sub = some r ∧
      now.add? c.refreshLifetime = some expiry ∧
      c.sign? ⟨k.username, k.sub, k.role⟩ .access now accessId.render = some issued.accessToken ∧
      issued.refreshToken = token ∧
      issued.record = { r with expiresAt := expiry, version := r.version + 1, updatedAt := now } ∧
      ∀ subject, (records after).find subject =
        if subject = k.sub then some issued.record else (records s).find subject := by
  have hreports : Reports (c.checks access token now fun subject => (store.find subject s).1) _ := reports_checks
  obtain rfl : (c.refresh store access token now accessId s).1 = result := congrArg Prod.fst hrefresh
  obtain rfl : (c.refresh store access token now accessId s).2 = after := congrArg Prod.snd hrefresh
  refine ⟨?_, ?_, records_refresh_of_not_isOk h, ?_⟩
  · intro e
    rw [refresh_eq_error_iff h, hreports.eq_error_iff]
  · rw [refresh_eq_overflow_iff h, hreports.exists_ok_iff]
  · intro issued hissued
    rcases refresh_cases h accessId with ⟨_, -, hresult, -⟩ | ⟨_, -, -, hresult, -⟩ |
      ⟨k, r, accessExpiry, expiry, hchecks, hexpiries, hresult, hwritten⟩
    · exact absurd (hissued.symm.trans hresult) (by simp)
    · exact absurd (hissued.symm.trans hresult) (by simp)
    · obtain rfl := Except.ok.inj (hissued.symm.trans hresult)
      obtain ⟨a, -, hk, hread, -⟩ := checks_eq_ok_iff.mp hchecks
      obtain ⟨haccess, hrefreshed⟩ := c.expiries?_eq_some_iff.mp hexpiries
      refine ⟨k, r, expiry, hk, (h.told k.sub _ hread).symm, hrefreshed, ?_, rfl, rfl, ?_⟩
      · rw [sign?, Claims.mint?_eq, lifetime, haccess]
        rfl
      · intro subject
        rw [hwritten]
        exact RecordStore.find_write _ _ _ _

end Undisturbed

/-! ### A sample -/

/-- A record that neither opens nor lasts. -/
def sampleSpoilt : TokenRecord := ⟨"r1", "u1", ⟨"", ""⟩, ⟨0, 0⟩, 7, ⟨0, 0⟩, ⟨0, 0⟩⟩

/-- Of two checks that fail, the one on the sealed text comes before the one on the expiry. -/
theorem sample_opens_before_alive :
    ∃ access token : String, ∃ after : Memory,
      RefreshCheck.Fails sampleConfig access token ⟨3, 0⟩ (fun _ => .ok (some sampleSpoilt)) .alive
        (.authentication .recordExpired) ∧
      sampleConfig.refresh Memory.recordAccess access token ⟨3, 0⟩ ⟨5⟩
        { records := ⟨[("u1", sampleSpoilt)]⟩ } = (.error (.error (.encryption (.ivSize 0))), after) ∧
      after.records = ⟨[("u1", sampleSpoilt)]⟩ := by
  let access := sampleConfig.minted .access sampleSubject ⟨0, 0⟩ ⟨900, 0⟩ ⟨1⟩
  let token := sampleConfig.minted .refresh sampleSubject ⟨0, 0⟩ ⟨4, 0⟩ ⟨2⟩
  let m : Memory := { records := ⟨[("u1", sampleSpoilt)]⟩ }
  have ha : sampleConfig.verify access .access false ⟨3, 0⟩ =
      .ok (Claims.minted sampleSubject ⟨0, 0⟩ ⟨900, 0⟩ (Uuid.render ⟨1⟩)) :=
    (sampleConfig.verify_minted_eq_ok_iff .access (by decide)).mpr ⟨by decide, by decide, rfl⟩
  have hk : sampleConfig.verify token .refresh true ⟨3, 0⟩ =
      .ok (Claims.minted sampleSubject ⟨0, 0⟩ ⟨4, 0⟩ (Uuid.render ⟨2⟩)) :=
    (sampleConfig.verify_minted_eq_ok_iff .refresh (by decide)).mpr ⟨by decide, by decide, rfl⟩
  have hchecks : sampleConfig.checks access token ⟨3, 0⟩ (fun subject => (Memory.recordAccess.find subject m).1) =
      .error (.encryption (.ivSize 0)) := by
    rw [checks_of_read ha hk rfl, checkRecord_some, if_neg (by decide)]
    rfl
  cases hrefresh : sampleConfig.refresh Memory.recordAccess access token ⟨3, 0⟩ ⟨5⟩ m with
  | mk result after =>
    obtain ⟨hfails, -, hkept, -⟩ := refresh_fails_at_first_check m.undisturbed hrefresh
    obtain rfl := (hfails _).mpr (reports_checks.first _ hchecks)
    exact ⟨access, token, after, .alive hk rfl (by decide), hrefresh, hkept rfl⟩

end TokenConfig

end Gatehouse

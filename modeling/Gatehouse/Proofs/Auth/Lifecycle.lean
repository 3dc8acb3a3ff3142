import Gatehouse.Auth.Lifecycle
import Gatehouse.Proofs.Auth.Minting
import Gatehouse.Proofs.Auth.Record

/-!
# The operations on tokens

What issuing and refreshing do to the stores, without the monad they are written in.

* `refresh_apply`, `verifyRefreshToken_apply`: the operations on any store, which is asked for one record;
* `issue_eq`: issuing writes a record, or overflows and changes nothing;
* `refresh_of_accepts`, `of_refresh_eq_ok`: a refresh answers exactly if all that it looks at is in order
  (`Accepts`), and then it writes a new expiry and nothing else;
* `of_refresh_eq_error`: a refresh that does not answer changes nothing.
-/

namespace Gatehouse

namespace Action

variable {σ ε ε' α β : Type}

/-- A result changes nothing. -/
@[simp] theorem pure_apply (a : α) (s : σ) : (pure a : Action σ ε α) s = (.ok a, s) := rfl

/-- A failure changes nothing. -/
@[simp] theorem throw_apply (e : ε) (s : σ) : (throw e : Action σ ε α) s = (.error e, s) := rfl

/-- The second action goes on where the first one ended, unless that failed. -/
theorem bind_apply (act : Action σ ε α) (f : α → Action σ ε β) (s : σ) :
    (act >>= f) s = match act s with
      | (.ok a, s') => f a s'
      | (.error e, s') => (.error e, s') := by
  change ExceptT.bindCont f (act s).1 (act s).2 = _
  rcases act s with ⟨_ | _, _⟩ <;> rfl

/-- A lifted action does what it did. -/
theorem lift_apply (act : Action σ ε α) (s : σ) :
    lift act s = ((act s).1.mapError Stop.error, (act s).2) := by
  rfl

/-- A result that is there already changes nothing. -/
theorem ofExcept_apply (x : Except ε α) (s : σ) : (ofExcept x : Action σ ε α) s = (x, s) := by
  cases x <;> rfl

end Action

namespace TokenConfig

variable (c : TokenConfig)

/-! ### On any store -/

section Apply

variable {σ : Type} (store : RecordAccess σ)

/-- What the writing half of a refresh does on any store. -/
theorem renew_apply (claims : Claims) (token : String) (r : TokenRecord) (now : Instant)
    (accessId : Uuid) (s : σ) :
    c.renew store claims token r now accessId s =
      match c.expiries? now with
      | none => (.error .overflow, s)
      | some (access, expiry) =>
        match store.extend r.subject r.version expiry now s with
        | (.error e, s') => (.error (.error e), s')
        | (.ok none, s') => (.error (.error .concurrentModification), s')
        | (.ok (some record), s') =>
          (.ok ⟨c.minted .access claims.subject now access accessId, token, record⟩, s') := by
  rw [renew, expiries?, sign?, Claims.mint?_eq, lifetime]
  cases now.add? c.accessLifetime with
  | none => simp [Action.ofCalendar, Action.bind_apply]
  | some access =>
    cases now.add? c.refreshLifetime with
    | none => simp [Action.ofCalendar, Action.bind_apply]
    | some expiry =>
      simp only [Action.ofCalendar, Option.map_some, Option.bind_some, Action.bind_apply,
        Action.pure_apply, Action.lift_apply]
      rcases store.extend r.subject r.version expiry now s with ⟨_ | _ | _, _⟩ <;> rfl

/-- A refresh is its checks and its writing half, on any store. -/
theorem refresh_apply (access token : String) (now : Instant) (accessId : Uuid) (s : σ) :
    c.refresh store access token now accessId s =
      match c.checkTokens access token now with
      | .error e => (.error (.error e), s)
      | .ok (a, k) =>
        match store.find k.sub s with
        | (.error e, s') => (.error (.error e), s')
        | (.ok found, s') =>
          match c.checkRecord a k token found now with
          | .error e => (.error (.error e), s')
          | .ok record => c.renew store k token record now accessId s' := by
  rw [refresh, Action.bind_apply, Action.lift_apply, Action.ofExcept_apply]
  cases c.checkTokens access token now with
  | error e => rfl
  | ok claims =>
    obtain ⟨a, k⟩ := claims
    change (Action.lift (store.find k.sub) >>= _) s = _
    rw [Action.bind_apply, Action.lift_apply]
    dsimp only
    rcases store.find k.sub s with ⟨_ | found, s'⟩
    · rfl
    change (Action.lift (Action.ofExcept (c.checkRecord a k token found now)) >>= _) s' = _
    rw [Action.bind_apply, Action.lift_apply, Action.ofExcept_apply]
    dsimp only
    cases c.checkRecord a k token found now with
    | error e => rfl
    | ok record => rfl

/-- Asking whether a refresh token is alive looks at the record of its subject, on any store. -/
theorem verifyRefreshToken_apply (token : String) (now : Instant) (s : σ) :
    c.verifyRefreshToken store token now s =
      match c.verify token .refresh true now with
      | .error _ => (.ok false, s)
      | .ok k =>
        match store.find k.sub s with
        | (.error e, s') => (.error e, s')
        | (.ok found, s') => (c.keepsAlive token found now, s') := by
  rw [verifyRefreshToken]
  cases c.verify token .refresh true now with
  | error _ => rfl
  | ok k =>
    change (store.find k.sub >>= _) s = _
    rw [Action.bind_apply]
    dsimp only
    rcases store.find k.sub s with ⟨_ | found, s'⟩
    · rfl
    · exact Action.ofExcept_apply (c.keepsAlive token found now) s'

end Apply

/-! ### In memory -/

/-- What issuing does to the stores in memory, and what it answers. -/
theorem issue_eq (s : Subject) (now : Instant) (draws : TokenDraws) (m : Memory) :
    c.issue Memory.recordAccess s now draws m =
      match c.expiries? now with
      | none => (.error .overflow, m)
      | some (access, expiry) =>
        let token := c.minted .refresh s now expiry draws.refreshId
        let written := m.records.upsert s.id (c.sealToken draws.nonce token) expiry now
          draws.recordId.render
        (.ok ⟨c.minted .access s now access draws.accessId, token, written.1⟩,
          { m with records := written.2 }) := by
  simp only [issue, expiries?, sign?]
  rw [Claims.mint?_eq, Claims.mint?_eq, lifetime, lifetime]
  cases now.add? c.accessLifetime with
  | none => simp [Action.ofCalendar, Action.bind_apply]
  | some access =>
    cases now.add? c.refreshLifetime with
    | none => simp [Action.ofCalendar, Action.bind_apply]
    | some expiry =>
      simp only [Action.ofCalendar, Option.map_some, Option.bind_some, pure_bind]
      rfl

/-- What the writing half of a refresh does to the stores in memory, and what it answers. -/
theorem renew_eq (claims : Claims) (token : String) (r : TokenRecord) (now : Instant)
    (accessId : Uuid) (m : Memory) :
    c.renew Memory.recordAccess claims token r now accessId m =
      match c.expiries? now with
      | none => (.error .overflow, m)
      | some (access, expiry) =>
        match m.records.extend r.subject r.version expiry now with
        | (some record, records) =>
          (.ok ⟨c.minted .access claims.subject now access accessId, token, record⟩,
            { m with records := records })
        | (none, _) => (.error (.error .concurrentModification), m) := by
  rw [renew_apply]
  cases c.expiries? now with
  | none => rfl
  | some expiries =>
    obtain ⟨access, expiry⟩ := expiries
    have happly : Memory.recordAccess.extend r.subject r.version expiry now m =
        (.ok (m.records.extend r.subject r.version expiry now).1,
          { m with records := (m.records.extend r.subject r.version expiry now).2 }) := rfl
    dsimp only
    rw [happly]
    cases hextend : m.records.extend r.subject r.version expiry now with
    | mk written records =>
      cases written with
      | some record => rfl
      | none =>
        obtain rfl := RecordStore.of_extend_eq_none hextend
        rfl

variable {c} in
/-- The writing half of a refresh extends whatever record has the version that was read. -/
theorem renew_of_version {claims : Claims} {token : String} {r r₀ : TokenRecord}
    {now accessExpiry expiry : Instant} {m : Memory}
    (hexpiries : c.expiries? now = some (accessExpiry, expiry))
    (hfound : m.records.find r.subject = some r₀) (hversion : r₀.version = r.version)
    (accessId : Uuid) :
    c.renew Memory.recordAccess claims token r now accessId m =
      (.ok ⟨c.minted .access claims.subject now accessExpiry accessId, token,
          RecordStore.extended r₀ expiry now⟩,
        { m with records := m.records.write r.subject (RecordStore.extended r₀ expiry now) }) := by
  rw [renew_eq, hexpiries]
  dsimp only
  rw [RecordStore.extend_eq, hfound]
  dsimp only
  rw [if_pos hversion]

variable {c} in
/-- The writing half of a refresh that answers has extended a record of the version that was read. -/
theorem of_renew_eq_ok {claims : Claims} {token : String} {r : TokenRecord} {now : Instant}
    {accessId : Uuid} {m m' : Memory} {p : IssuedTokens}
    (h : c.renew Memory.recordAccess claims token r now accessId m = (.ok p, m')) :
    ∃ r₀ accessExpiry expiry, c.expiries? now = some (accessExpiry, expiry) ∧
      m.records.find r.subject = some r₀ ∧ r₀.version = r.version ∧
      p = ⟨c.minted .access claims.subject now accessExpiry accessId, token,
        RecordStore.extended r₀ expiry now⟩ ∧
      m' = { m with records := m.records.write r.subject (RecordStore.extended r₀ expiry now) } := by
  rw [renew_eq] at h
  split at h
  · exact absurd (Prod.mk.inj h).1 (by simp)
  next accessExpiry expiry hexpiries =>
  split at h
  next record records hextend =>
    obtain ⟨r₀, hfound, hversion, rfl, rfl⟩ := RecordStore.of_extend_eq_some hextend
    obtain ⟨hp, rfl⟩ := Prod.mk.inj h
    exact ⟨r₀, accessExpiry, expiry, hexpiries, hfound, hversion, (Except.ok.inj hp).symm, rfl⟩
  next => exact absurd (Prod.mk.inj h).1 (by simp)

variable {c} in
/-- The writing half of a refresh that does not answer has changed nothing. It was late, or an expiry
lies outside the calendar. -/
theorem of_renew_eq_error {claims : Claims} {token : String} {r : TokenRecord} {now : Instant}
    {accessId : Uuid} {m m' : Memory} {e : Stop AuthError}
    (h : c.renew Memory.recordAccess claims token r now accessId m = (.error e, m')) :
    m' = m ∧ (e = .error .concurrentModification ∨ e = .overflow ∧ c.expiries? now = none) := by
  rw [renew_eq] at h
  split at h
  next hnone =>
    obtain ⟨he, hm⟩ := Prod.mk.inj h
    exact ⟨hm.symm, .inr ⟨(Except.error.inj he).symm, hnone⟩⟩
  next =>
    split at h
    · exact absurd (Prod.mk.inj h).1 (by simp)
    · obtain ⟨he, hm⟩ := Prod.mk.inj h
      exact ⟨hm.symm, .inl (Except.error.inj he).symm⟩

/-- A refresh is its checks and its writing half; what the checks refuse changes nothing. -/
theorem refresh_eq (access token : String) (now : Instant) (accessId : Uuid) (m : Memory) :
    c.refresh Memory.recordAccess access token now accessId m =
      match c.checkTokens access token now with
      | .error e => (.error (.error e), m)
      | .ok (a, r) =>
        match c.checkRecord a r token (m.records.find r.sub) now with
        | .error e => (.error (.error e), m)
        | .ok record => c.renew Memory.recordAccess r token record now accessId m := by
  exact c.refresh_apply Memory.recordAccess access token now accessId m

/-- Asking whether a refresh token is alive looks at the record of its subject, and changes nothing. -/
theorem verifyRefreshToken_eq (token : String) (now : Instant) (m : Memory) :
    c.verifyRefreshToken Memory.recordAccess token now m =
      (match c.verify token .refresh true now with
        | .error _ => .ok false
        | .ok claims => c.keepsAlive token (m.records.find claims.sub) now, m) := by
  rw [verifyRefreshToken_apply]
  cases c.verify token .refresh true now with
  | error _ => rfl
  | ok k => rfl

/-! ### The checks of a refresh -/

/-- Both tokens pass the first checks if they verify. -/
theorem checkTokens_eq_ok_iff {access token : String} {now : Instant} {a k : Claims} :
    c.checkTokens access token now = .ok (a, k) ↔
      c.verify access .access false now = .ok a ∧ c.verify token .refresh true now = .ok k := by
  rw [checkTokens]
  cases c.verify access .access false now with
  | error e => exact ⟨nofun, fun h => nomatch h.1⟩
  | ok a' =>
    cases c.verify token .refresh true now with
    | error e => exact ⟨nofun, fun h => nomatch h.2⟩
    | ok k' =>
      change Except.ok (a', k') = Except.ok (a, k) ↔ _
      simp

/-- A record passes the last checks if it is of the subject of both tokens, keeps the token, and has not
expired. -/
theorem checkRecord_eq_ok_iff {a k : Claims} {token : String} {found : Option TokenRecord}
    {now : Instant} {r : TokenRecord} :
    c.checkRecord a k token found now = .ok r ↔
      found = some r ∧ a.sub = r.subject ∧ k.sub = r.subject ∧ c.storedToken r = .ok token ∧
        now.before r.expiresAt = true := by
  cases found with
  | none => simp [checkRecord, throw, throwThe, MonadExceptOf.throw]
  | some r' =>
    unfold checkRecord
    dsimp only
    by_cases hsub : a.sub = r'.subject ∧ k.sub = r'.subject
    · rw [if_neg (by simp [hsub])]
      cases hstored : c.storedToken r' with
      | error e =>
        simp only [bind, Except.bind, reduceCtorEq, Option.some.injEq, false_iff]
        rintro ⟨rfl, -, -, hstored', -⟩
        simp [hstored] at hstored'
      | ok stored =>
        simp only [bind, Except.bind]
        constructor
        · intro h
          split at h
          · exact absurd h (by simp [throw, throwThe, MonadExceptOf.throw])
          next htoken =>
          split at h
          · exact absurd h (by simp [throw, throwThe, MonadExceptOf.throw])
          next halive =>
          obtain rfl : r' = r := Except.ok.inj h
          obtain rfl : stored = token := by simpa using htoken
          exact ⟨rfl, hsub.1, hsub.2, hstored, by simpa using halive⟩
        · rintro ⟨hr, -, -, hstored', halive⟩
          obtain rfl := Option.some.inj hr
          obtain rfl : stored = token := by simpa [hstored] using hstored'
          simp [halive, pure, Except.pure]
    · rw [if_pos (by simpa using Decidable.not_and_iff_not_or_not.mp hsub)]
      simp only [throw, throwThe, MonadExceptOf.throw, reduceCtorEq, Option.some.injEq, false_iff]
      rintro ⟨rfl, haccess, hrefresh, -, -⟩
      exact hsub ⟨haccess, hrefresh⟩

/-! ### A refresh in memory -/

/-- All that a refresh must find in order: the claims of both tokens, and the record that is read. -/
structure Accepts (access token : String) (now : Instant) (m : Memory) (a k : Claims)
    (r : TokenRecord) : Prop where
  access : c.verify access .access false now = .ok a
  refresh : c.verify token .refresh true now = .ok k
  found : m.records.find k.sub = some r
  accessSubject : a.sub = r.subject
  refreshSubject : k.sub = r.subject
  stored : c.storedToken r = .ok token
  alive : now.before r.expiresAt = true

variable {c}

/-- **A refresh answers exactly if all is in order and no expiry leaves the calendar.** The record was
read in the same breath, so it still has the version that was read. -/
theorem refresh_of_accepts {access token : String} {now accessExpiry expiry : Instant} {m : Memory}
    {a k : Claims} {r : TokenRecord} (h : c.Accepts access token now m a k r)
    (hexpiries : c.expiries? now = some (accessExpiry, expiry)) (accessId : Uuid) :
    c.refresh Memory.recordAccess access token now accessId m =
      (.ok ⟨c.minted .access k.subject now accessExpiry accessId, token,
          RecordStore.extended r expiry now⟩,
        { m with records := m.records.write r.subject (RecordStore.extended r expiry now) }) := by
  have htokens : c.checkTokens access token now = .ok (a, k) :=
    c.checkTokens_eq_ok_iff.mpr ⟨h.access, h.refresh⟩
  have hrecord : c.checkRecord a k token (m.records.find k.sub) now = .ok r :=
    c.checkRecord_eq_ok_iff.mpr
      ⟨h.found, h.accessSubject, h.refreshSubject, h.stored, h.alive⟩
  have hfound : m.records.find r.subject = some r := by rw [← h.refreshSubject, h.found]
  rw [refresh_eq, htokens]
  dsimp only
  rw [hrecord]
  exact renew_of_version hexpiries hfound rfl accessId

/-- A refresh that answered has found all in order, and has written nothing but a new expiry. -/
theorem of_refresh_eq_ok {access token : String} {now : Instant} {accessId : Uuid} {m m' : Memory}
    {p : IssuedTokens}
    (h : c.refresh Memory.recordAccess access token now accessId m = (.ok p, m')) :
    ∃ a k r accessExpiry expiry, c.Accepts access token now m a k r ∧
      c.expiries? now = some (accessExpiry, expiry) ∧
      p = ⟨c.minted .access k.subject now accessExpiry accessId, token,
        RecordStore.extended r expiry now⟩ ∧
      m' = { m with records := m.records.write r.subject (RecordStore.extended r expiry now) } := by
  rw [refresh_eq] at h
  split at h
  · exact absurd (Prod.mk.inj h).1 (by simp)
  next a k htokens =>
  split at h
  · exact absurd (Prod.mk.inj h).1 (by simp)
  next r hrecord =>
  obtain ⟨haccess, hrefresh⟩ := c.checkTokens_eq_ok_iff.mp htokens
  obtain ⟨hfound, haccessSubject, hrefreshSubject, hstored, halive⟩ :=
    c.checkRecord_eq_ok_iff.mp hrecord
  have haccepts : c.Accepts access token now m a k r :=
    ⟨haccess, hrefresh, hfound, haccessSubject, hrefreshSubject, hstored, halive⟩
  cases hexpiries : c.expiries? now with
  | none =>
    rw [renew_eq, hexpiries] at h
    exact absurd (Prod.mk.inj h).1 (by simp)
  | some e =>
    obtain ⟨accessExpiry, expiry⟩ := e
    refine ⟨a, k, r, accessExpiry, expiry, haccepts, rfl, ?_⟩
    have hok := refresh_of_accepts haccepts hexpiries accessId
    rw [refresh_eq, htokens] at hok
    dsimp only at hok
    rw [hrecord] at hok
    obtain ⟨hp, hm⟩ := Prod.mk.inj (h.symm.trans hok)
    exact ⟨Except.ok.inj hp, hm⟩

/-- Exactly if all is in order and no expiry leaves the calendar, a refresh answers. -/
theorem isOk_refresh_iff {access token : String} {now : Instant} {accessId : Uuid} {m : Memory} :
    (c.refresh Memory.recordAccess access token now accessId m).1.isOk = true ↔
      (∃ a k r, c.Accepts access token now m a k r) ∧ (c.expiries? now).isSome = true := by
  constructor
  · intro h
    cases hrefresh : c.refresh Memory.recordAccess access token now accessId m with
    | mk result m' =>
      rw [hrefresh] at h
      cases result with
      | error stop => exact absurd h (by simp [Except.isOk, Except.toBool])
      | ok tokens =>
        obtain ⟨a, k, r, accessExpiry, expiry, haccepts, hexpiries, -⟩ := of_refresh_eq_ok hrefresh
        exact ⟨⟨a, k, r, haccepts⟩, by rw [hexpiries]; rfl⟩
  · rintro ⟨⟨a, k, r, haccepts⟩, hexpiries⟩
    obtain ⟨⟨accessExpiry, expiry⟩, hexpiries⟩ := Option.isSome_iff_exists.mp hexpiries
    rw [refresh_of_accepts haccepts hexpiries]
    rfl

/-- A refresh whose tokens do not pass is refused for that cause. -/
theorem refresh_of_checkTokens_eq_error {access token : String} {now : Instant} {accessId : Uuid}
    {m : Memory} {e : AuthError} (h : c.checkTokens access token now = .error e) :
    c.refresh Memory.recordAccess access token now accessId m = (.error (.error e), m) := by
  rw [refresh_eq, h]

/-- An issue that answered has minted both tokens, and has written the record of the subject and nothing
else. -/
theorem of_issue_eq_ok {s : Subject} {now : Instant} {draws : TokenDraws} {m m' : Memory} {p : IssuedTokens}
    (h : c.issue Memory.recordAccess s now draws m = (.ok p, m')) :
    ∃ accessExpiry expiry, c.expiries? now = some (accessExpiry, expiry) ∧
      p.accessToken = c.minted .access s now accessExpiry draws.accessId ∧
      p.refreshToken = c.minted .refresh s now expiry draws.refreshId ∧
      m' = { m with records := (m.records.upsert s.id (c.sealToken draws.nonce p.refreshToken) expiry now
        draws.recordId.render).2 } := by
  rw [issue_eq] at h
  split at h
  · exact absurd (Prod.mk.inj h).1 (by simp)
  next accessExpiry expiry hexpiries =>
    obtain ⟨hp, rfl⟩ := Prod.mk.inj h
    obtain rfl := Except.ok.inj hp
    exact ⟨accessExpiry, expiry, hexpiries, rfl, rfl, rfl⟩

/-- The records that are found after an issue that answered. -/
theorem find_of_issue {s : Subject} {now : Instant} {draws : TokenDraws} {m m' : Memory} {p : IssuedTokens}
    (h : c.issue Memory.recordAccess s now draws m = (.ok p, m')) (key : String) :
    m'.records.find key = if key = s.id then some p.record else m.records.find key := by
  rw [issue_eq] at h
  split at h
  · exact absurd (Prod.mk.inj h).1 (by simp)
  next accessExpiry expiry hexpiries =>
    obtain ⟨hp, rfl⟩ := Prod.mk.inj h
    obtain rfl := Except.ok.inj hp
    exact RecordStore.find_upsert _ _ _ _ _ _ key

/-! ### What changes nothing -/

/-- An issue that did not answer changed nothing. -/
theorem of_issue_eq_error {s : Subject} {now : Instant} {draws : TokenDraws} {m m' : Memory}
    {e : Stop AuthError}
    (h : c.issue Memory.recordAccess s now draws m = (.error e, m')) : m' = m := by
  rw [issue_eq] at h
  split at h
  · exact (Prod.mk.inj h).2.symm
  · exact absurd (Prod.mk.inj h).1 (by simp)

/-- An issue does not answer only because an expiry lies outside the calendar. -/
theorem overflow_of_issue_eq_error {s : Subject} {now : Instant} {draws : TokenDraws} {m m' : Memory}
    {e : Stop AuthError} (h : c.issue Memory.recordAccess s now draws m = (.error e, m')) :
    e = .overflow ∧ c.expiries? now = none := by
  rw [issue_eq] at h
  split at h
  next hnone => exact ⟨(Except.error.inj (Prod.mk.inj h).1).symm, hnone⟩
  · exact absurd (Prod.mk.inj h).1 (by simp)

/-- A refresh that did not answer changed nothing. -/
theorem of_refresh_eq_error {access token : String} {now : Instant} {accessId : Uuid}
    {m m' : Memory} {e : Stop AuthError}
    (h : c.refresh Memory.recordAccess access token now accessId m = (.error e, m')) : m' = m := by
  rw [refresh_eq] at h
  split at h
  · exact (Prod.mk.inj h).2.symm
  next a k htokens =>
  split at h
  · exact (Prod.mk.inj h).2.symm
  next r hrecord =>
  exact (of_renew_eq_error h).1

/-! ### A refresh after an issue -/

/-- What an issue answers, and the record that is found after it. -/
theorem issue_of_expiries {now accessExpiry expiry : Instant}
    (h : c.expiries? now = some (accessExpiry, expiry)) (s : Subject) (draws : TokenDraws)
    (m : Memory) :
    ∃ p m', c.issue Memory.recordAccess s now draws m = (.ok p, m') ∧
      p.accessToken = c.minted .access s now accessExpiry draws.accessId ∧
      p.refreshToken = c.minted .refresh s now expiry draws.refreshId ∧
      p.record = RecordStore.upserted (m.records.find s.id) s.id
        (c.sealToken draws.nonce p.refreshToken) expiry now draws.recordId.render ∧
      m'.records.find s.id = some p.record := by
  have hissue := c.issue_eq s now draws m
  rw [h] at hissue
  dsimp only at hissue
  generalize hp : IssuedTokens.mk _ _ _ = p, hm' : Memory.mk _ _ = m' at hissue
  refine ⟨p, m', hissue, ?_⟩
  subst hp hm'
  exact ⟨rfl, rfl, rfl, (RecordStore.find_upsert _ _ _ _ _ _ _).trans (if_pos rfl)⟩

/-- What was just issued is in order until it expires. -/
theorem accepts_of_issue {s : Subject} {t accessExpiry expiry : Instant} {draws : TokenDraws}
    {m m' : Memory} {p : IssuedTokens}
    (h : c.issue Memory.recordAccess s t draws m = (.ok p, m')) (hsubject : p.record.subject = s.id)
    (hexpiries : c.expiries? t = some (accessExpiry, expiry)) (haccess : 0 ≤ accessExpiry.second)
    (hrefresh : 0 ≤ expiry.second) (now : Instant) (hfuture : now.second ≤ expiry.second)
    (halive : now.before expiry = true) :
    ∃ a k, c.Accepts p.accessToken p.refreshToken now m' a k p.record := by
  obtain ⟨haccessExpiry, hexpiry⟩ := c.expiries?_eq_some_iff.mp hexpiries
  obtain ⟨p', m'', hissue, haccessToken, hrefreshToken, hrecord, hfound⟩ :=
    issue_of_expiries hexpiries s draws m
  obtain ⟨hp, rfl⟩ := Prod.mk.inj (h.symm.trans hissue)
  obtain rfl := Except.ok.inj hp
  refine ⟨Claims.minted s t accessExpiry draws.accessId.render,
    Claims.minted s t expiry draws.refreshId.render, ?_, ?_, hfound, hsubject.symm, hsubject.symm,
    ?_, ?_⟩
  · rw [haccessToken]
    exact (c.verify_minted_eq_ok_iff .access haccessExpiry).mpr ⟨haccess, by simp, rfl⟩
  · rw [hrefreshToken]
    exact (c.verify_minted_eq_ok_iff .refresh hexpiry).mpr ⟨hrefresh, fun _ => hfuture, rfl⟩
  · have htoken : p.record.token = c.sealToken draws.nonce p.refreshToken := by
      rw [hrecord, RecordStore.upserted_token]
    exact c.storedToken_of_token_eq htoken
  · rw [hrecord, RecordStore.upserted_expiresAt]
    exact halive

end TokenConfig

/-! ### A sample -/

/-- A service whose refresh tokens live for four seconds. -/
def sampleConfig : TokenConfig where
  accessSecret := "access"
  accessLifetime := ⟨900, by decide⟩
  refreshSecret := "refresh"
  refreshLifetime := ⟨4, by decide⟩
  sealPassphrase := "seal"

/-- One of its subjects. -/
def sampleSubject : Subject := ⟨"ada", "u1", "user"⟩

/-- What it draws for this subject. -/
def sampleDraws : TokenDraws := ⟨⟨1⟩, ⟨2⟩, ⟨3⟩, Nonce.ofNat 4⟩

/-- The expiries of what it mints in the first seconds. -/
theorem sample_expiries : ∀ t ∈ [0, 1, 2, 3],
    sampleConfig.expiries? ⟨t, 0⟩ = some (⟨t + 900, 0⟩, ⟨t + 4, 0⟩) := by
  decide

end Gatehouse

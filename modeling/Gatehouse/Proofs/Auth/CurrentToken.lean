import Gatehouse.Proofs.Auth.History

/-!
# The current refresh token

After any history, a refresh token is good for its subject exactly while it is the one that the latest
issue returned (`refresh_isOk_iff_current`). A token that a later issue has superseded, or a revoke has
dropped, is refused from then on, however often the others were refreshed in between.
-/

namespace Gatehouse.Lifecycle

/-- The refresh token of the latest issue for a subject, unless the subject was revoked since. -/
def currentToken? (s : String) (log : List Entry) : Option String :=
  (currentIssue? s log).map fun issue => issue.2.refreshToken

/-- The refresh token that an entry issued. -/
def Entry.issuedToken? (e : Entry) : Option String :=
  match e.answer with
  | .issued _ tokens => some tokens.refreshToken
  | _ => none

/-- An entry ends the life of whatever token a subject had: it is an issue for the subject or a revoke
of it. -/
def Entry.ends (e : Entry) (s : String) : Prop :=
  match e.answer with
  | .issued x _ => x.id = s
  | .revoked x _ => x = s
  | _ => False

/-- A token was issued, and an entry after that ended its life. -/
def Superseded (log : List Entry) (token : String) : Prop :=
  ∃ later t x tokens earlier, log = later ++ ⟨t, .issued x tokens⟩ :: earlier ∧
    tokens.refreshToken = token ∧ ∃ e ∈ later, e.ends x.id

/-- No two issues returned one refresh token. -/
def TokensDistinct (log : List Entry) : Prop := (log.filterMap Entry.issuedToken?).Nodup

variable {c : TokenConfig} {log : List Entry} {m : Memory}

/-- The current token of a subject was issued to that subject. -/
theorem mem_of_currentToken? {s token : String} (h : currentToken? s log = some token) :
    ∃ t x tokens, (⟨t, .issued x tokens⟩ : Entry) ∈ log ∧ x.id = s ∧
      tokens.refreshToken = token := by
  induction log with
  | nil => simp [currentToken?, currentIssue?] at h
  | cons e log ih =>
    obtain ⟨time, answer⟩ := e
    have hlog (h : currentToken? s log = some token) : ∃ t x tokens,
        (⟨t, .issued x tokens⟩ : Entry) ∈ ⟨time, answer⟩ :: log ∧ x.id = s ∧
          tokens.refreshToken = token := by
      obtain ⟨t, x, tokens, hmem, hx⟩ := ih h
      exact ⟨t, x, tokens, List.mem_cons_of_mem _ hmem, hx⟩
    rw [currentToken?, currentIssue?] at h
    cases answer with
    | issued x tokens =>
      dsimp only at h
      split at h
      next hx => exact ⟨time, x, tokens, List.mem_cons_self, hx, by simpa using h⟩
      next => exact hlog h
    | revoked x deleted =>
      dsimp only at h
      split at h
      · exact absurd h (by simp)
      · exact hlog h
    | refreshed tokens => exact hlog h
    | verified live => exact hlog h
    | failed stop => exact hlog h

/-- After an entry that ended the life of a subject's token, what was before no longer counts. -/
theorem currentToken?_append {s : String} {later : List Entry} (hends : ∃ e ∈ later, e.ends s)
    (earlier : List Entry) : currentToken? s (later ++ earlier) = currentToken? s later := by
  induction later with
  | nil => simp at hends
  | cons e later ih =>
    obtain ⟨time, answer⟩ := e
    have hlater (h : ¬ Entry.ends ⟨time, answer⟩ s) :
        currentToken? s (later ++ earlier) = currentToken? s later := by
      obtain ⟨e, hmem, he⟩ := hends
      rcases List.mem_cons.mp hmem with rfl | hmem
      · exact absurd he h
      · exact ih ⟨e, hmem, he⟩
    rw [List.cons_append]
    simp only [currentToken?, currentIssue?]
    cases answer with
    | issued x tokens =>
      dsimp only
      split
      next => rfl
      next hx => exact hlater hx
    | revoked x deleted =>
      dsimp only
      split
      next => rfl
      next hx => exact hlater hx
    | refreshed tokens => exact hlater id
    | verified live => exact hlater id
    | failed stop => exact hlater id

/-- The token of an issue is among the issued ones. -/
theorem mem_issuedTokens {t : Instant} {x : Subject} {tokens : IssuedTokens}
    (h : (⟨t, .issued x tokens⟩ : Entry) ∈ log) :
    tokens.refreshToken ∈ log.filterMap Entry.issuedToken? :=
  List.mem_filterMap.mpr ⟨_, h, rfl⟩

/-- **A superseded token is nobody's current token.** -/
theorem currentToken?_ne_of_superseded {token : String} (hdistinct : TokensDistinct log)
    (h : Superseded log token) (s : String) : currentToken? s log ≠ some token := by
  obtain ⟨later, t, x, tokens, earlier, rfl, rfl, hends⟩ := h
  have hissued : Entry.issuedToken? ⟨t, .issued x tokens⟩ = some tokens.refreshToken := rfl
  rw [TokensDistinct, List.filterMap_append, List.filterMap_cons_some hissued, List.nodup_append,
    List.nodup_cons] at hdistinct
  obtain ⟨-, ⟨hearlier, -⟩, hlater⟩ := hdistinct
  have hnotLater {t' x' tokens'} (hmem : (⟨t', .issued x' tokens'⟩ : Entry) ∈ later) :
      tokens'.refreshToken ≠ tokens.refreshToken :=
    hlater _ (mem_issuedTokens hmem) _ List.mem_cons_self
  intro hcurrent
  obtain ⟨t', x', tokens', hmem, rfl, htoken⟩ := mem_of_currentToken? hcurrent
  rcases List.mem_append.mp hmem with hmem | hmem
  · exact hnotLater hmem htoken
  rcases List.mem_cons.mp hmem with heq | hmem
  · -- the very issue: the subject's life ended since, so its token comes from a later one
    obtain ⟨rfl, rfl⟩ : x' = x ∧ tokens' = tokens := by simpa using congrArg Entry.answer heq
    rw [currentToken?_append hends] at hcurrent
    obtain ⟨_, _, _, hmem, -, htoken⟩ := mem_of_currentToken? hcurrent
    exact hnotLater hmem htoken
  · exact hearlier (htoken ▸ mem_issuedTokens hmem)

/-! ### When a refresh is granted -/

/-- A refresh token that was minted verifies as long as the claims that it carries have not expired. -/
theorem MintedFor.verify {s token : String} {t now : Instant} {k : Claims}
    (h : MintedFor c .refresh s t token) (hclaims : SignedToken.claims? token = some k)
    (hnow : now.second ≤ k.expiresAt) : c.verify token .refresh true now = .ok k ∧ k.sub = s := by
  obtain ⟨x, id, expiry, rfl, hexpiry, rfl⟩ := h
  rw [TokenConfig.minted, SignedToken.claims?_sign _ (Claims.fits_minted hexpiry)] at hclaims
  obtain ⟨hnonneg, hk⟩ := Option.ite_none_right_eq_some.mp hclaims
  obtain rfl := Option.some.inj hk
  exact ⟨(c.verify_minted_eq_ok_iff .refresh hexpiry).mpr ⟨hnonneg, fun _ => hnow, rfl⟩, rfl⟩

/-- **A refresh is granted exactly for the current token** of a subject, while neither the token nor the
subject's record has expired, and with an access token of that subject. -/
theorem refresh_isOk_iff_current (h : History c log m) {now : Instant}
    (hnow : (c.expiries? now).isSome = true) (access token : String) (accessId : Uuid) :
    (c.refresh Memory.recordAccess access token now accessId m).1.isOk = true ↔
      ∃ s, currentToken? s log = some token ∧
        (∃ k, SignedToken.claims? token = some k ∧ now.second ≤ k.expiresAt) ∧
        (∃ r, m.records.find s = some r ∧ now.before r.expiresAt = true) ∧
        ∃ a, c.verify access .access false now = .ok a ∧ a.sub = s := by
  rw [TokenConfig.isOk_refresh_iff, and_iff_left hnow]
  have hagrees := h.agrees
  constructor
  · rintro ⟨a, k, r, haccepts⟩
    have hk := hagrees k.sub
    rw [haccepts.found] at hk
    obtain ⟨hclaims, hexp⟩ :=
      SignedToken.of_verify_eq_ok (c.verify_eq_ok_iff.mp haccepts.refresh)
    refine ⟨k.sub, ?_, ⟨k, hclaims, hexp rfl⟩, ⟨r, haccepts.found, haccepts.alive⟩, a,
      haccepts.access, haccepts.accessSubject.trans haccepts.refreshSubject.symm⟩
    rw [currentToken?]
    generalize currentIssue? k.sub log = issue, currentAnswer? k.sub log = answer at hk
    cases hk with
    | record hr =>
      have htoken := Except.ok.inj (hr.stored.symm.trans haccepts.stored)
      rw [Option.map_some, htoken]
  · rintro ⟨s, hcurrent, ⟨k, hclaims, hexp⟩, ⟨r, hfound, halive⟩, a, haccess, rfl⟩
    have hs := hagrees a.sub
    rw [hfound] at hs
    rw [currentToken?] at hcurrent
    generalize currentIssue? a.sub log = issue, currentAnswer? a.sub log = answer at hs hcurrent
    cases hs with
    | @record issue _ _ hr =>
      obtain rfl : issue.2.refreshToken = token := by simpa using hcurrent
      obtain ⟨hrefresh, hsub⟩ := hr.refresh.verify hclaims hexp
      exact ⟨a, k, r, haccess, hrefresh, hsub ▸ hfound, hr.subject.symm,
        hsub.trans hr.subject.symm, hr.stored, halive⟩

/-- **The current token is granted, a superseded one never**, after every history and at every time at
which no new expiry leaves the calendar. -/
theorem refresh_current_and_refuse_superseded (h : History c log m) {now : Instant}
    (hnow : (c.expiries? now).isSome = true) (access token : String) (accessId : Uuid) :
    ((c.refresh Memory.recordAccess access token now accessId m).1.isOk = true ↔
      ∃ s, currentToken? s log = some token ∧
        (∃ k, SignedToken.claims? token = some k ∧ now.second ≤ k.expiresAt) ∧
        (∃ r, m.records.find s = some r ∧ now.before r.expiresAt = true) ∧
        ∃ a, c.verify access .access false now = .ok a ∧ a.sub = s) ∧
    (TokensDistinct log → Superseded log token →
      (c.refresh Memory.recordAccess access token now accessId m).1.isOk = false) := by
  have hiff := refresh_isOk_iff_current h hnow access token accessId
  refine ⟨hiff, fun hdistinct hsuperseded => ?_⟩
  rw [Bool.eq_false_iff]
  intro hok
  obtain ⟨s, hcurrent, -⟩ := hiff.mp hok
  exact currentToken?_ne_of_superseded hdistinct hsuperseded s hcurrent

/-- A subject who is issued tokens twice is refused with the first refresh token, and granted with the
second. -/
theorem second_of_two_issues_supersedes_first :
    ∃ first second m₁ m₂,
      sampleConfig.issue Memory.recordAccess sampleSubject ⟨0, 0⟩ sampleDraws {} = (.ok first, m₁) ∧
      sampleConfig.issue Memory.recordAccess sampleSubject ⟨1, 0⟩ sampleDraws m₁ = (.ok second, m₂) ∧
      (sampleConfig.refresh Memory.recordAccess second.accessToken first.refreshToken ⟨2, 0⟩ ⟨5⟩
        m₂).1.isOk = false ∧
      (sampleConfig.refresh Memory.recordAccess second.accessToken second.refreshToken ⟨2, 0⟩ ⟨5⟩
        m₂).1.isOk = true := by
  obtain ⟨first, m₁, hfirst, -, htoken, -⟩ :=
    TokenConfig.issue_of_expiries (sample_expiries 0 (by decide)) sampleSubject sampleDraws {}
  obtain ⟨second, m₂, hsecond, haccess', htoken', hrecord', hfound⟩ :=
    TokenConfig.issue_of_expiries (sample_expiries 1 (by decide)) sampleSubject sampleDraws m₁
  have hhistory := ((History.start {}).issue hfirst).issue hsecond
  have hnow : (sampleConfig.expiries? ⟨2, 0⟩).isSome = true := by decide
  refine ⟨first, second, m₁, m₂, hfirst, hsecond, ?_, ?_⟩
  · refine (refresh_current_and_refuse_superseded hhistory hnow _ _ _).2 ?_ ?_
    · have hne : second.refreshToken ≠ first.refreshToken := by
        rw [htoken, htoken']
        exact sampleConfig.minted_ne_of_second_ne .refresh (by decide) (by decide) (by decide)
      simp [TokensDistinct, Entry.issuedToken?, hne]
    · exact ⟨[_], _, _, _, [], rfl, rfl, _, List.mem_singleton_self _, rfl⟩
  · refine (refresh_current_and_refuse_superseded hhistory hnow _ _ _).1.mpr
      ⟨sampleSubject.id, ?_, ⟨Claims.minted sampleSubject ⟨1, 0⟩ ⟨5, 0⟩ sampleDraws.refreshId.render, ?_, by decide⟩,
        ⟨second.record, hfound, ?_⟩,
        Claims.minted sampleSubject ⟨1, 0⟩ ⟨901, 0⟩ sampleDraws.accessId.render, ?_, rfl⟩
    · rw [currentToken?, currentIssue?_issued]
      rfl
    · have hexpiry : Instant.add? ⟨1, 0⟩ sampleConfig.refreshLifetime = some ⟨1 + 4, 0⟩ := by decide
      rw [htoken', TokenConfig.minted, SignedToken.claims?_sign _ (Claims.fits_minted hexpiry)]
      rfl
    · rw [hrecord', RecordStore.upserted_expiresAt]
      decide
    · rw [haccess']
      exact (sampleConfig.verify_minted_eq_ok_iff .access (by decide)).mpr
        ⟨by decide, by decide, rfl⟩

end Gatehouse.Lifecycle

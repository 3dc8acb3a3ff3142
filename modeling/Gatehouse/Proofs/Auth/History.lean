import Gatehouse.Proofs.Auth.Lifecycle

/-!
# Histories of one service

A history is what a client of the service sees: calls one after another, each answered at a time, over a
record store in memory that starts out empty. From the answers alone one reads off, for each subject,
which issue is **current** (`currentIssue?`: the latest one, unless the subject was revoked since) and
which answer is (`currentAnswer?`: a refresh counts too).

`History.agrees` is the invariant that ties the answers to the store: a subject has a record exactly if
an issue is current for it, and the record is the one of the current answer and keeps the refresh token
of the current issue, sealed.
-/

namespace Gatehouse.Lifecycle

/-- What is asked of the service. -/
inductive Call where
  | issue (s : Subject) (draws : TokenDraws)
  | refresh (access token : String) (accessId : Uuid)
  | revoke (subject : String)
  | verifyRefresh (token : String)

/-- What the service answers. -/
inductive Answer where
  | issued (s : Subject) (tokens : IssuedTokens)
  | refreshed (tokens : IssuedTokens)
  | revoked (subject : String) (deleted : Bool)
  | verified (live : Bool)
  | failed (stop : Stop AuthError)

/-- The answer that an operation comes to, with the stores after it. -/
def Answer.ofResult {α : Type} (answer : α → Answer) :
    Except (Stop AuthError) α × Memory → Answer × Memory
  | (.ok a, m) => (answer a, m)
  | (.error stop, m) => (.failed stop, m)

/-- Answer a call from the stores in memory. -/
def Call.perform (c : TokenConfig) (now : Instant) (m : Memory) : Call → Answer × Memory
  | .issue s draws => Answer.ofResult (.issued s) (c.issue Memory.recordAccess s now draws m)
  | .refresh access token accessId =>
    Answer.ofResult .refreshed (c.refresh Memory.recordAccess access token now accessId m)
  | .revoke subject =>
    Answer.ofResult (.revoked subject) (Action.lift (Memory.recordAccess.delete subject) m)
  | .verifyRefresh token =>
    Answer.ofResult .verified (Action.lift (c.verifyRefreshToken Memory.recordAccess token now) m)

/-- An answer and when it was given. -/
structure Entry where
  time : Instant
  answer : Answer

/-- The logs that calls leave, **the latest entry first**, with the stores after them. -/
inductive History (c : TokenConfig) : List Entry → Memory → Prop where
  | start (users : Directory) : History c [] { users }
  | call {log : List Entry} {m : Memory} (now : Instant) (k : Call) (h : History c log m) :
      History c (⟨now, (k.perform c now m).1⟩ :: log) (k.perform c now m).2

/-- An issue that answers goes into the log. -/
theorem History.issue {c : TokenConfig} {log : List Entry} {m m' : Memory} (h : History c log m)
    {now : Instant} {s : Subject} {draws : TokenDraws} {tokens : IssuedTokens}
    (hissue : c.issue Memory.recordAccess s now draws m = (.ok tokens, m')) :
    History c (⟨now, .issued s tokens⟩ :: log) m' := by
  have hcall := h.call now (.issue s draws)
  rw [Call.perform, hissue] at hcall
  exact hcall

/-! ### What the answers say -/

/-- The latest issue for a subject, unless the subject was revoked since. -/
def currentIssue? (s : String) : List Entry → Option (Instant × IssuedTokens)
  | [] => none
  | e :: log =>
    match e.answer with
    | .issued x tokens => if x.id = s then some (e.time, tokens) else currentIssue? s log
    | .revoked x _ => if x = s then none else currentIssue? s log
    | _ => currentIssue? s log

/-- The latest issue or refresh for a subject, unless the subject was revoked since. -/
def currentAnswer? (s : String) : List Entry → Option (Instant × IssuedTokens)
  | [] => none
  | e :: log =>
    match e.answer with
    | .issued x tokens => if x.id = s then some (e.time, tokens) else currentAnswer? s log
    | .refreshed tokens =>
      if tokens.record.subject = s then some (e.time, tokens) else currentAnswer? s log
    | .revoked x _ => if x = s then none else currentAnswer? s log
    | _ => currentAnswer? s log

/-- An issue is current at once. -/
theorem currentIssue?_issued (t : Instant) (x : Subject) (tokens : IssuedTokens) (log : List Entry) :
    currentIssue? x.id (⟨t, .issued x tokens⟩ :: log) = some (t, tokens) := if_pos rfl

/-- A refresh leaves the issues as they are. -/
theorem currentIssue?_refreshed (s : String) (t : Instant) (tokens : IssuedTokens)
    (log : List Entry) : currentIssue? s (⟨t, .refreshed tokens⟩ :: log) = currentIssue? s log := rfl

/-- The answer of an issue is current at once. -/
theorem currentAnswer?_issued (t : Instant) (x : Subject) (tokens : IssuedTokens)
    (log : List Entry) :
    currentAnswer? x.id (⟨t, .issued x tokens⟩ :: log) = some (t, tokens) := if_pos rfl

/-! ### What the store keeps -/

/-- A token of a kind was minted at a time, for whoever has an id. -/
def MintedFor (c : TokenConfig) (kind : TokenKind) (s : String) (t : Instant) (token : String) :
    Prop :=
  ∃ x id expiry, x.id = s ∧ t.add? (c.lifetime kind) = some expiry ∧
    token = c.minted kind x t expiry id

/-- A record upholds the current issue and the current answer of a subject. -/
structure Upholds (c : TokenConfig) (s : String) (issue answer : Instant × IssuedTokens)
    (r : TokenRecord) : Prop where
  record : answer.2.record = r
  subject : r.subject = s
  stored : c.storedToken r = .ok issue.2.refreshToken
  token : answer.2.refreshToken = issue.2.refreshToken
  expiresAt : answer.1.add? c.refreshLifetime = some r.expiresAt
  refresh : MintedFor c .refresh s issue.1 issue.2.refreshToken
  access : MintedFor c .access s answer.1 answer.2.accessToken

/-- There is a record exactly if there are a current issue and a current answer, and it upholds
them. -/
inductive Agrees (c : TokenConfig) (s : String) : Option (Instant × IssuedTokens) →
    Option (Instant × IssuedTokens) → Option TokenRecord → Prop where
  | nothing : Agrees c s none none none
  | record {issue answer : Instant × IssuedTokens} {r : TokenRecord}
      (h : Upholds c s issue answer r) : Agrees c s (some issue) (some answer) (some r)

/-- A log and the stores agree on every subject. -/
def Invariant (c : TokenConfig) (log : List Entry) (m : Memory) : Prop :=
  ∀ s, Agrees c s (currentIssue? s log) (currentAnswer? s log) (m.records.find s)

variable {c : TokenConfig} {log : List Entry} {m : Memory}

/-- The record of a subject is of that subject. -/
theorem Invariant.subject_of_find (h : Invariant c log m) {s : String} {r : TokenRecord}
    (hfind : m.records.find s = some r) : r.subject = s := by
  have hagrees := h s
  rw [hfind] at hagrees
  generalize currentIssue? s log = issue, currentAnswer? s log = answer at hagrees
  cases hagrees with
  | record hr => exact hr.subject

/-- What is issued is current from then on. -/
theorem Invariant.issue (h : Invariant c log m) {x : Subject} {now : Instant} {draws : TokenDraws}
    {tokens : IssuedTokens} {m' : Memory}
    (hissue : c.issue Memory.recordAccess x now draws m = (.ok tokens, m')) :
    Invariant c (⟨now, .issued x tokens⟩ :: log) m' := by
  rw [TokenConfig.issue_eq] at hissue
  split at hissue
  · exact absurd (Prod.mk.inj hissue).1 (by simp)
  next accessExpiry expiry hexpiries =>
  obtain ⟨haccess, hrefresh⟩ := c.expiries?_eq_some_iff.mp hexpiries
  dsimp only at hissue
  obtain ⟨htokens, rfl⟩ := Prod.mk.inj hissue
  obtain rfl := Except.ok.inj htokens
  intro s
  rw [RecordStore.find_upsert]
  by_cases hs : x.id = s
  · subst hs
    rw [if_pos rfl, currentIssue?_issued, currentAnswer?_issued]
    refine .record ⟨rfl, ?_, ?_, rfl, ?_, ?_, ?_⟩
    · exact RecordStore.upserted_subject _ _ _ _ _ _ fun r hr => h.subject_of_find hr
    · exact c.storedToken_of_token_eq (RecordStore.upserted_token _ _ _ _ _ _)
    · rw [RecordStore.upserted_expiresAt]
      exact hrefresh
    · exact ⟨x, draws.refreshId, expiry, rfl, hrefresh, rfl⟩
    · exact ⟨x, draws.accessId, accessExpiry, rfl, haccess, rfl⟩
  · rw [if_neg (Ne.symm hs), currentIssue?, currentAnswer?]
    dsimp only
    rw [if_neg hs, if_neg hs]
    exact h s

/-- A refresh leaves the current issue as it is, and becomes the current answer. -/
theorem Invariant.refresh (h : Invariant c log m) {access token : String} {now : Instant}
    {accessId : Uuid} {tokens : IssuedTokens} {m' : Memory}
    (hrefresh : c.refresh Memory.recordAccess access token now accessId m = (.ok tokens, m')) :
    Invariant c (⟨now, .refreshed tokens⟩ :: log) m' := by
  obtain ⟨a, k, r, accessExpiry, expiry, haccepts, hexpiries, rfl, rfl⟩ :=
    TokenConfig.of_refresh_eq_ok hrefresh
  obtain ⟨haccess, hexpiry⟩ := c.expiries?_eq_some_iff.mp hexpiries
  intro s
  have hagrees := h s
  rw [RecordStore.find_write, currentIssue?_refreshed, currentAnswer?]
  dsimp only
  have hsubject : (RecordStore.extended r expiry now).subject = r.subject := rfl
  by_cases hs : r.subject = s
  · rw [if_pos hs.symm, if_pos (hsubject.trans hs)]
    have hfind : m.records.find s = some r := by
      rw [← hs, ← haccepts.refreshSubject, haccepts.found]
    rw [hfind] at hagrees
    generalize currentIssue? s log = issue, currentAnswer? s log = answer at hagrees
    cases hagrees with
    | record hr =>
      refine .record ⟨rfl, hr.subject, hr.stored, ?_, hexpiry, hr.refresh, ?_⟩
      · exact Except.ok.inj (haccepts.stored.symm.trans hr.stored)
      · exact ⟨k.subject, accessId, accessExpiry, haccepts.refreshSubject.trans hs, haccess, rfl⟩
  · rw [if_neg (Ne.symm hs), if_neg (hsubject ▸ hs)]
    exact hagrees

/-- Nothing is current for a subject that was revoked. -/
theorem Invariant.revoke (h : Invariant c log m) (subject : String) (now : Instant)
    (deleted : Bool) :
    Invariant c (⟨now, .revoked subject deleted⟩ :: log)
      { m with records := (m.records.delete subject).2 } := by
  intro s
  rw [RecordStore.find_delete, currentIssue?, currentAnswer?]
  dsimp only
  by_cases hs : subject = s
  · rw [if_pos hs.symm, if_pos hs, if_pos hs]
    exact .nothing
  · rw [if_neg (Ne.symm hs), if_neg hs, if_neg hs]
    exact h s

/-- Each call keeps the log and the stores in agreement. -/
theorem Invariant.perform (h : Invariant c log m) (now : Instant) (k : Call) :
    Invariant c (⟨now, (k.perform c now m).1⟩ :: log) (k.perform c now m).2 := by
  cases k with
  | issue x draws =>
    rw [Call.perform]
    cases hissue : c.issue Memory.recordAccess x now draws m with
    | mk result m' =>
      cases result with
      | ok tokens => exact h.issue hissue
      | error stop =>
        obtain rfl := TokenConfig.of_issue_eq_error hissue
        exact h
  | refresh access token accessId =>
    rw [Call.perform]
    cases hrefresh : c.refresh Memory.recordAccess access token now accessId m with
    | mk result m' =>
      cases result with
      | ok tokens => exact h.refresh hrefresh
      | error stop =>
        obtain rfl := TokenConfig.of_refresh_eq_error hrefresh
        exact h
  | revoke subject => exact h.revoke subject now _
  | verifyRefresh token =>
    have hm : (c.verifyRefreshToken Memory.recordAccess token now m).2 = m := by
      rw [TokenConfig.verifyRefreshToken_eq]
    rw [Call.perform, Action.lift_apply, hm]
    cases (c.verifyRefreshToken Memory.recordAccess token now m).1 with
    | ok live => exact h
    | error e => exact h

/-- **After every history the log and the stores agree.** -/
theorem History.agrees (h : History c log m) : Invariant c log m := by
  induction h with
  | start users => exact fun s => .nothing
  | call now k h ih => exact ih.perform now k

/-- Behind a current answer stand a current issue and a record that upholds both. -/
theorem History.upholds (h : History c log m) {s : String} {answer : Instant × IssuedTokens}
    (hanswer : currentAnswer? s log = some answer) :
    ∃ issue r, currentIssue? s log = some issue ∧ m.records.find s = some r ∧
      Upholds c s issue answer r := by
  have hs := h.agrees s
  rw [hanswer] at hs
  generalize currentIssue? s log = issue, m.records.find s = found at hs ⊢
  cases hs with
  | record hr => exact ⟨_, _, rfl, rfl, hr⟩

end Gatehouse.Lifecycle

import Gatehouse.Proofs.Auth.History

/-!
# Subjects do not interfere

Every call on the service concerns one subject at most (`Call.subject?`). A refresh names two through its two
tokens, and it is the one of its **refresh token** whose record is read and written. A call that concerns a
subject goes by nothing but the record of that subject (`GoesBy`), and a call that concerns another one leaves
that record alone (`Leaves`). So whoever deletes the calls of all others from a run changes no answer of those
that stay, and not the record in the end (`subjects_never_interfere`).
-/

namespace Gatehouse

namespace SignedToken

/-- The claims that a token carries are in its payload. -/
theorem payload?_of_claims? {token : String} {k : Claims} (h : claims? token = some k) :
    payload? token = some k := by
  rw [claims?, Option.bind_eq_some_iff] at h
  obtain ⟨p, hparts, hclaims⟩ := h
  rw [claimsOf?] at hclaims
  split at hclaims
  next tokens htokens =>
    split at hclaims
    next k' hread =>
      obtain ⟨-, hk⟩ := Option.ite_none_right_eq_some.mp hclaims
      rw [payload?, hparts, Option.bind_some, htokens, Option.bind_some, hread, hk]
    next => exact absurd hclaims (by simp)
  next => exact absurd hclaims (by simp)

end SignedToken

namespace Lifecycle

/-- The subject that a call concerns. Of the two that a refresh names it is the one of the refresh token. A
token without claims concerns nobody. -/
def Call.subject? : Call → Option String
  | .issue s _ => some s.id
  | .refresh _ token _ | .verifyRefresh token => (SignedToken.payload? token).map (·.sub)
  | .revoke subject => some subject

/-- A call concerns no other subject. -/
def Call.regards (s : String) (k : Call) : Bool := k.subject?.all (· = s)

/-- What is answered to calls, one after another and each at a time. -/
def transcript (c : TokenConfig) : Memory → List (Instant × Call) → List ((Instant × Call) × Answer)
  | _, [] => []
  | m, e :: calls => (e, (e.2.perform c e.1 m).1) :: transcript c (e.2.perform c e.1 m).2 calls

/-- The stores after calls. -/
def after (c : TokenConfig) : Memory → List (Instant × Call) → Memory
  | m, [] => m
  | m, e :: calls => after c (e.2.perform c e.1 m).2 calls

/-! ### What an operation depends on and what it leaves -/

section Operations

variable {α : Type}

/-- An operation goes by the record of a subject: wherever that record is the same, the result is the same, and
so is the record after it. -/
def GoesBy (s : String) (act : Memory → α × Memory) : Prop :=
  ∀ m m' : Memory, m.records.find s = m'.records.find s →
    (act m).1 = (act m').1 ∧ (act m).2.records.find s = (act m').2.records.find s

/-- An operation leaves the record of a subject as it is. -/
def Leaves (s : String) (act : Memory → α × Memory) : Prop :=
  ∀ m : Memory, (act m).2.records.find s = m.records.find s

variable {s : String}

/-- What answers and changes nothing goes by the record of anyone. -/
theorem goesBy_const {act : Memory → α × Memory} {a : α} (h : ∀ m, act m = (a, m)) : GoesBy s act := by
  intro m m' hfind
  rw [h, h]
  exact ⟨rfl, hfind⟩

variable {act : Memory → Except (Stop AuthError) α × Memory} {answer : α → Answer}

/-- The answer tells the result and no more. -/
theorem GoesBy.ofResult (h : GoesBy s act) : GoesBy s fun m => Answer.ofResult answer (act m) := by
  intro m m' hfind
  obtain ⟨hresult, hrecord⟩ := h m m' hfind
  dsimp only
  generalize act m = x, act m' = y at hresult hrecord ⊢
  obtain ⟨result, left⟩ := x
  obtain ⟨result', right⟩ := y
  obtain rfl : result = result' := hresult
  cases result with
  | ok a => exact ⟨rfl, hrecord⟩
  | error stop => exact ⟨rfl, hrecord⟩

/-- Answering leaves the record alone. -/
theorem Leaves.ofResult (h : Leaves s act) : Leaves s fun m => Answer.ofResult answer (act m) := by
  intro m
  have hm := h m
  dsimp only
  generalize act m = x at hm ⊢
  obtain ⟨result, left⟩ := x
  cases result with
  | ok a => exact hm
  | error stop => exact hm

end Operations

/-! ### Each operation -/

variable (c : TokenConfig) (now : Instant)

/-- Issuing goes by the record of its subject. -/
theorem goesBy_issue (x : Subject) (draws : TokenDraws) :
    GoesBy x.id (c.issue Memory.recordAccess x now draws) := by
  intro m m' hfind
  rw [c.issue_eq, c.issue_eq]
  cases c.expiries? now with
  | none => exact ⟨rfl, hfind⟩
  | some expiries =>
    obtain ⟨access, expiry⟩ := expiries
    dsimp only
    rw [RecordStore.find_upsert, RecordStore.find_upsert, RecordStore.upsert, RecordStore.upsert, hfind]
    exact ⟨rfl, rfl⟩

/-- Issuing leaves the records of all others. -/
theorem leaves_issue {s : String} {x : Subject} (h : x.id ≠ s) (draws : TokenDraws) :
    Leaves s (c.issue Memory.recordAccess x now draws) := by
  intro m
  rw [c.issue_eq]
  cases c.expiries? now with
  | none => rfl
  | some expiries => exact (RecordStore.find_upsert _ _ _ _ _ _ _).trans (if_neg h.symm)

/-- The writing half of a refresh goes by the record of the subject of the record that was read. -/
theorem goesBy_renew (k : Claims) (token : String) (r : TokenRecord) (accessId : Uuid) :
    GoesBy r.subject (c.renew Memory.recordAccess k token r now accessId) := by
  intro m m' hfind
  rw [c.renew_eq, c.renew_eq]
  cases c.expiries? now with
  | none => exact ⟨rfl, hfind⟩
  | some expiries =>
    obtain ⟨access, expiry⟩ := expiries
    dsimp only
    rw [RecordStore.extend_eq, RecordStore.extend_eq, ← hfind]
    cases hr : m.records.find r.subject with
    | none => exact ⟨rfl, hfind⟩
    | some r₀ =>
      dsimp only
      by_cases hversion : r₀.version = r.version
      · rw [if_pos hversion, if_pos hversion]
        dsimp only
        rw [RecordStore.find_write, RecordStore.find_write, if_pos rfl, if_pos rfl]
        exact ⟨rfl, rfl⟩
      · rw [if_neg hversion, if_neg hversion]
        exact ⟨rfl, hfind⟩

/-- A refresh goes by the record of the subject of its refresh token, whomever its access token names. -/
theorem goesBy_refresh {s : String} {access token : String} {accessId : Uuid}
    (h : (Call.refresh access token accessId).regards s = true) :
    GoesBy s (c.refresh Memory.recordAccess access token now accessId) := by
  cases htokens : c.checkTokens access token now with
  | error e => exact goesBy_const fun m => TokenConfig.refresh_of_checkTokens_eq_error htokens
  | ok claims =>
    obtain ⟨a, k⟩ := claims
    have hverify := c.verify_eq_ok_iff.mp (c.checkTokens_eq_ok_iff.mp htokens).2
    have hpayload := SignedToken.payload?_of_claims? (SignedToken.of_verify_eq_ok hverify).1
    have hsub : k.sub = s := by simpa [Call.regards, Call.subject?, hpayload] using h
    intro m m' hfind
    rw [c.refresh_eq, c.refresh_eq, htokens]
    dsimp only
    rw [hsub, ← hfind]
    cases hrecord : c.checkRecord a k token (m.records.find s) now with
    | error e => exact ⟨rfl, hfind⟩
    | ok r =>
      have hsubject : r.subject = s := (c.checkRecord_eq_ok_iff.mp hrecord).2.2.1.symm.trans hsub
      have hrenew := goesBy_renew c now k token r accessId
      rw [hsubject] at hrenew
      exact hrenew m m' hfind

/-- A refresh leaves the records of all but the subject of its refresh token. -/
theorem leaves_refresh {s : String} {access token : String} {accessId : Uuid}
    (h : (Call.refresh access token accessId).regards s = false) :
    Leaves s (c.refresh Memory.recordAccess access token now accessId) := by
  intro m
  cases hrefresh : c.refresh Memory.recordAccess access token now accessId m with
  | mk result m' =>
    cases result with
    | error stop => rw [TokenConfig.of_refresh_eq_error hrefresh]
    | ok tokens =>
      obtain ⟨a, k, r, accessExpiry, expiry, haccepts, -, -, rfl⟩ := TokenConfig.of_refresh_eq_ok hrefresh
      have hverify := c.verify_eq_ok_iff.mp haccepts.refresh
      have hpayload := SignedToken.payload?_of_claims? (SignedToken.of_verify_eq_ok hverify).1
      have hne : r.subject ≠ s := by
        rw [← haccepts.refreshSubject]
        simpa [Call.regards, Call.subject?, hpayload] using h
      exact (RecordStore.find_write _ _ _ _).trans (if_neg hne.symm)

/-- Revoking goes by the record of its subject. -/
theorem goesBy_revoke (subject : String) :
    GoesBy subject (Action.lift (Memory.recordAccess.delete subject)) := by
  intro m m' hfind
  have happly (m : Memory) : Action.lift (Memory.recordAccess.delete subject) m =
      (.ok (m.records.find subject).isSome, { m with records := (m.records.delete subject).2 }) := rfl
  rw [happly, happly, hfind]
  refine ⟨rfl, ?_⟩
  dsimp only
  rw [RecordStore.find_delete, RecordStore.find_delete, if_pos rfl, if_pos rfl]

/-- Revoking leaves the records of all others. -/
theorem leaves_revoke {s subject : String} (h : subject ≠ s) :
    Leaves s (Action.lift (Memory.recordAccess.delete subject)) := by
  intro m
  exact (RecordStore.find_delete m.records subject s).trans (if_neg h.symm)

/-- Whether a refresh token is alive is told by the record of its subject. -/
theorem goesBy_verifyRefresh {s token : String} (h : (Call.verifyRefresh token).regards s = true) :
    GoesBy s (Action.lift (c.verifyRefreshToken Memory.recordAccess token now)) := by
  intro m m' hfind
  rw [Action.lift_apply, Action.lift_apply, c.verifyRefreshToken_eq, c.verifyRefreshToken_eq]
  cases hverify : c.verify token .refresh true now with
  | error e => exact ⟨rfl, hfind⟩
  | ok k =>
    have hpayload := SignedToken.payload?_of_claims?
      (SignedToken.of_verify_eq_ok (c.verify_eq_ok_iff.mp hverify)).1
    have hsub : k.sub = s := by simpa [Call.regards, Call.subject?, hpayload] using h
    dsimp only
    rw [hsub, hfind]
    exact ⟨rfl, rfl⟩

/-- Asking whether a refresh token is alive leaves all records. -/
theorem leaves_verifyRefresh (s token : String) :
    Leaves s (Action.lift (c.verifyRefreshToken Memory.recordAccess token now)) := by
  intro m
  rw [Action.lift_apply, c.verifyRefreshToken_eq]

/-! ### Every call, and runs of calls -/

/-- A call that concerns no other subject goes by the record of the one. -/
theorem Call.goesBy {s : String} {k : Call} (h : k.regards s = true) : GoesBy s (k.perform c now) := by
  cases k with
  | issue x draws =>
    obtain rfl : x.id = s := by simpa [Call.regards, Call.subject?] using h
    exact (goesBy_issue c now x draws).ofResult
  | refresh access token accessId => exact (goesBy_refresh c now h).ofResult
  | revoke subject =>
    obtain rfl : subject = s := by simpa [Call.regards, Call.subject?] using h
    exact (goesBy_revoke subject).ofResult
  | verifyRefresh token => exact (goesBy_verifyRefresh c now h).ofResult

/-- A call that concerns another subject leaves the record of the one. -/
theorem Call.leaves {s : String} {k : Call} (h : k.regards s = false) : Leaves s (k.perform c now) := by
  cases k with
  | issue x draws =>
    have hne : x.id ≠ s := by simpa [Call.regards, Call.subject?] using h
    exact (leaves_issue c now hne draws).ofResult
  | refresh access token accessId => exact (leaves_refresh c now h).ofResult
  | revoke subject =>
    have hne : subject ≠ s := by simpa [Call.regards, Call.subject?] using h
    exact (leaves_revoke hne).ofResult
  | verifyRefresh token => exact (leaves_verifyRefresh c now s token).ofResult

variable {c}

/-- A run and the run without the calls of all others, from stores that have the same record of a subject,
answer the same calls in the same way and end with the same record of the subject. -/
theorem run_eq_run_filter {s : String} {m m' : Memory} (hfind : m.records.find s = m'.records.find s)
    (calls : List (Instant × Call)) :
    (transcript c m calls).filter (·.1.2.regards s) = transcript c m' (calls.filter (·.2.regards s)) ∧
      (after c m calls).records.find s = (after c m' (calls.filter (·.2.regards s))).records.find s := by
  induction calls generalizing m m' with
  | nil => exact ⟨rfl, hfind⟩
  | cons e calls ih =>
    obtain ⟨now, k⟩ := e
    cases hk : k.regards s with
    | true =>
      obtain ⟨hanswer, hrecord⟩ := Call.goesBy c now hk m m' hfind
      obtain ⟨htranscript, hafter⟩ := ih hrecord
      simp only [List.filter_cons, hk, if_true, transcript, after]
      exact ⟨by rw [hanswer, htranscript], hafter⟩
    | false =>
      -- The call is deleted: it is the stores of the longer run that move on.
      have hrecord : (k.perform c now m).2.records.find s = m'.records.find s :=
        (Call.leaves c now hk m).trans hfind
      simp only [List.filter_cons, hk, Bool.false_eq_true, if_false, transcript, after]
      exact ih hrecord

/-- **Subjects never interfere.** From whatever run of calls those that concern another subject than `s` are
deleted: every call that stays gets the answer it got, at the same time and with the same draws, and the
record of `s` in the end is the same. -/
theorem subjects_never_interfere (c : TokenConfig) (m : Memory) (s : String) (calls : List (Instant × Call)) :
    transcript c m (calls.filter (·.2.regards s)) = (transcript c m calls).filter (·.1.2.regards s) ∧
      (after c m (calls.filter (·.2.regards s))).records.find s = (after c m calls).records.find s := by
  obtain ⟨htranscript, hafter⟩ := run_eq_run_filter (c := c) (rfl : m.records.find s = m.records.find s) calls
  exact ⟨htranscript.symm, hafter.symm⟩

end Lifecycle

end Gatehouse

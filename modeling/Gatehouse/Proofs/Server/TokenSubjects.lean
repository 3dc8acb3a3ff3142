import Gatehouse.Proofs.Server.AccountSteps

/-!
# Whom tokens name

Every token that a server hands out names an account, and goes on naming it: the id, the username and the
role in the token are those of one account from then on, whatever is asked of the server
(`Server.token_names_account`). So tokens of an admin are tokens of the first account.

A refresh mints from the claims in the token that is presented, and not from the accounts. It keeps to the
accounts all the same, because the token that is presented must be the one in the record, and whatever is in
a record was minted for an account (`Server.NamesAccounts`).
-/

namespace Gatehouse

open Http (Request Response)

/-! ### Subjects of accounts -/

namespace Directory

variable {d : Directory}

/-- The accounts as subjects of tokens, in order. -/
def subjects (d : Directory) : List Subject := d.users.map (·.user.subject)

/-- A new account comes after all others. -/
theorem subjects_add (d : Directory) (u : StoredUser) : (d.add u).subjects = d.subjects ++ [u.user.subject] :=
  List.map_append

/-- An account that is changed where it stands stays the same subject. -/
theorem subjects_set {i : Nat} {u u' : StoredUser} (h : d.users[i]? = some u)
    (hsubject : u'.user.subject = u.user.subject) : subjects ⟨d.users.set i u'⟩ = d.subjects :=
  map_set_eq h hsubject

theorem subjects_updateProfile {d' : Directory} {id : String} {update : ProfileUpdate} {now : Instant}
    {user : User} (h : d.updateProfile id update now = (.updated user, d')) : d'.subjects = d.subjects := by
  obtain ⟨i, u, hi, -, rfl, rfl⟩ := of_updateProfile_eq_updated h
  exact subjects_set hi rfl

theorem subjects_setPasswordHash {id : String} {u : StoredUser} (h : d.findById id = some u) (hash : String)
    (now : Instant) : (d.setPasswordHash id hash now).2.subjects = d.subjects := by
  obtain ⟨i, hi, hset, -⟩ := setPasswordHash_of_findById h hash now
  rw [hset]
  exact subjects_set hi rfl

end Directory

/-! ### Tokens of a subject -/

/-- A token was minted for a subject, at some time and under some id. -/
def TokenConfig.Mints (c : TokenConfig) (kind : TokenKind) (x : Subject) (token : String) : Prop :=
  ∃ now expiry id, now.add? (c.lifetime kind) = some expiry ∧ token = c.minted kind x now expiry id

variable {tokens : TokenConfig} {scanLimit hashCost : Nat} {m : Moment} {r : Request} {before after : Memory}
  {answer : Option Response}

/-- A minted token carries the subject that it was minted for. -/
theorem TokenConfig.Mints.payload {kind : TokenKind} {x : Subject} {token : String}
    (h : tokens.Mints kind x token) : ∃ k, SignedToken.payload? token = some k ∧ k.subject = x := by
  obtain ⟨now, expiry, id, hexpiry, rfl⟩ := h
  exact ⟨Claims.minted x now expiry id.render, SignedToken.payload?_sign _ (Claims.fits_minted hexpiry), rfl⟩

/-- Whoever is issued tokens is issued tokens of their own. -/
theorem TokenConfig.mints_of_issue {x : Subject} {now : Instant} {draws : TokenDraws} {p : IssuedTokens}
    (h : tokens.issue Memory.recordAccess x now draws before = (.ok p, after)) (kind : TokenKind) :
    tokens.Mints kind x (p.token kind) := by
  obtain ⟨access, expiry, hexpiries, haccess, hrefresh, -⟩ := of_issue_eq_ok h
  obtain ⟨haccessExpiry, hexpiry⟩ := tokens.expiries?_eq_some_iff.mp hexpiries
  cases kind with
  | access => exact ⟨now, access, draws.accessId, haccessExpiry, haccess⟩
  | refresh => exact ⟨now, expiry, draws.refreshId, hexpiry, hrefresh⟩

namespace Server

/-- Each record keeps a refresh token that was minted for an account, and the first account is the one
admin. -/
structure NamesAccounts (tokens : TokenConfig) (mem : Memory) : Prop where
  admin : ∀ (i : Nat) (x : Subject), mem.users.subjects[i]? = some x → (x.role = adminRole ↔ i = 0)
  records : ∀ key record, mem.records.find key = some record →
    ∃ token x, tokens.storedToken record = .ok token ∧ x ∈ mem.users.subjects ∧ tokens.Mints .refresh x token

namespace NamesAccounts

theorem empty : NamesAccounts tokens {} where
  admin i x h := by simp [Directory.subjects] at h
  records key record h := by simp at h

/-- A new account is an admin exactly if it is the first. -/
theorem add (h : NamesAccounts tokens before) (new : NewUser) (hash : String) (now : Instant) (id : String) :
    NamesAccounts tokens
      { before with users := before.users.add ⟨before.users.account new now id, hash⟩ } where
  admin i x hx := by
    dsimp only at hx
    rw [Directory.subjects_add] at hx
    rcases Nat.lt_or_ge i before.users.subjects.length with hi | hi
    · rw [List.getElem?_append_left hi] at hx
      exact h.admin i x hx
    · rw [List.getElem?_append_right hi, List.getElem?_singleton] at hx
      obtain ⟨hlast, hnew⟩ := Option.ite_none_right_eq_some.mp hx
      obtain rfl := Option.some.inj hnew
      have hlength : before.users.subjects.length = before.users.users.length := List.length_map _
      obtain rfl : i = before.users.users.length := by omega
      change (before.users.account new now id).role = adminRole ↔ _
      rw [Directory.role_account]
      exact roleAt_eq_adminRole_iff
  records key record hfind := by
    obtain ⟨token, x, hstored, hx, hmints⟩ := h.records key record hfind
    refine ⟨token, x, hstored, ?_, hmints⟩
    rw [Directory.subjects_add]
    exact List.mem_append_left _ hx

/-- Whoever is an account may be issued tokens. -/
theorem issue (h : NamesAccounts tokens before) {x : Subject} (hx : x ∈ before.users.subjects) {now : Instant}
    {draws : TokenDraws} {p : IssuedTokens}
    (hissue : tokens.issue Memory.recordAccess x now draws before = (.ok p, after)) :
    NamesAccounts tokens after := by
  have hmints := TokenConfig.mints_of_issue hissue .refresh
  obtain ⟨_, expiry, -, -, -, rfl⟩ := TokenConfig.of_issue_eq_ok hissue
  refine ⟨h.admin, fun key record hfind => ?_⟩
  dsimp only at hfind
  rw [RecordStore.find_upsert] at hfind
  split at hfind
  · obtain rfl := Option.some.inj hfind
    exact ⟨p.refreshToken, x, tokens.storedToken_of_token_eq (RecordStore.upserted_token ..), hx, hmints⟩
  · exact h.records key record hfind

/-- **A refresh hands out tokens of an account.** The refresh token was presented, and is in the record; so
its claims are those of the account that it was minted for. -/
theorem refresh (h : NamesAccounts tokens before) {access token : String} {now : Instant} {accessId : Uuid}
    {p : IssuedTokens}
    (hrefresh : tokens.refresh Memory.recordAccess access token now accessId before = (.ok p, after)) :
    NamesAccounts tokens after ∧ ∃ x ∈ after.users.subjects, ∀ kind, tokens.Mints kind x (p.token kind) := by
  obtain ⟨a, k, record, accessExpiry, expiry, haccepts, hexpiries, rfl, rfl⟩ :=
    TokenConfig.of_refresh_eq_ok hrefresh
  obtain ⟨stored, x, hstored, hx, hmints⟩ := h.records k.sub record haccepts.found
  obtain rfl : token = stored := Except.ok.inj (haccepts.stored.symm.trans hstored)
  have hsubject : k.subject = x := by
    obtain ⟨minted, refreshExpiry, id, hadd, rfl⟩ := hmints
    obtain ⟨-, -, rfl⟩ := (tokens.verify_minted_eq_ok_iff .refresh hadd).mp haccepts.refresh
    rfl
  refine ⟨⟨h.admin, fun key record' hfind => ?_⟩, x, hx, fun kind => ?_⟩
  · dsimp only at hfind
    rw [RecordStore.find_write] at hfind
    split at hfind
    · obtain rfl := Option.some.inj hfind
      exact ⟨token, x, hstored, hx, hmints⟩
    · exact h.records key record' hfind
  · cases kind with
    | access =>
      rw [hsubject]
      exact ⟨now, accessExpiry, accessId, (tokens.expiries?_eq_some_iff.mp hexpiries).1, rfl⟩
    | refresh => exact hmints

/-- A record may be deleted. -/
theorem delete (h : NamesAccounts tokens before) (subject : String) :
    NamesAccounts tokens { before with records := (before.records.delete subject).2 } where
  admin := h.admin
  records key record hfind := by
    dsimp only at hfind
    rw [RecordStore.find_delete] at hfind
    exact h.records key record (Option.ite_none_left_eq_some.mp hfind).2

/-- Accounts may change as long as their subjects do not. -/
theorem users (h : NamesAccounts tokens before) {users : Directory}
    (hsame : users.subjects = before.users.subjects) : NamesAccounts tokens { before with users } where
  admin i x hx := h.admin i x (hsame ▸ hx)
  records key record hfind := hsame ▸ h.records key record hfind

end NamesAccounts

/-! ### One request -/

theorem tokenFree_deleted (b : Bool) : (Response.json 200 (truth "deleted" b)).TokenFree :=
  Response.tokenFree_truth 200 b fun kind => by cases kind <;> simp [TokenKind.field]

/-- A request leaves the subjects as they are, or makes one account, under a username that was free. -/
theorem Outcome.subjects_eq_or_add (h : Outcome tokens hashCost m r before answer after) :
    after.users.subjects = before.users.subjects ∨
      ∃ row email, before.users.taken row.user.username email = false ∧ after.users = before.users.add row := by
  have hstep := h.accountStep
  generalize after.users = users at hstep ⊢
  cases hstep with
  | kept => exact .inl rfl
  | made _ _ _ free => exact .inr ⟨_, _, free, rfl⟩
  | replaced _ _ _ _ _ _ found => exact .inl (Directory.subjects_set found rfl)
  | rehashed _ _ _ found => exact .inl (Directory.subjects_set found rfl)

/-- Accounts stay the subjects that they are, and new ones come after them. -/
theorem Outcome.subjects (h : Outcome tokens hashCost m r before answer after) :
    before.users.subjects <+: after.users.subjects := by
  obtain hsame | ⟨row, -, -, hadd⟩ := h.subjects_eq_or_add
  · exact hsame ▸ List.prefix_rfl
  · rw [hadd, Directory.subjects_add]
    exact List.prefix_append _ _

/-- A request leaves every record with an account. -/
theorem Outcome.namesAccounts (h : Outcome tokens hashCost m r before answer after)
    (hbefore : NamesAccounts tokens before) : NamesAccounts tokens after := by
  cases h with
  | unchanged => exact hbefore
  | @registered _ order hash _ _ _ _ _ _ _ _ made issue =>
    subst made
    refine (hbefore.add (order.newUser hash) hash m.now m.userId.render).issue ?_ issue
    rw [Directory.subjects_add]
    exact List.mem_append_right _ (List.mem_singleton_self _)
  | stranded _ _ _ _ _ made =>
    subst made
    exact hbefore.add _ _ m.now m.userId.render
  | loggedIn _ _ found _ issue =>
    exact hbefore.issue (List.mem_map_of_mem (List.mem_of_find?_eq_some found)) issue
  | refreshed _ _ refresh => exact (hbefore.refresh refresh).1
  | loggedOut => exact hbefore.delete _
  | revoked => exact hbefore.delete _
  | profileChanged _ _ _ _ updated => exact hbefore.users (Directory.subjects_updateProfile updated)
  | passwordChanged _ _ _ found => exact hbefore.users (Directory.subjects_setPasswordHash found _ _)

/-- Whatever token a request is answered with was minted for an account. -/
theorem Outcome.mints (h : Outcome tokens hashCost m r before answer after) (hbefore : NamesAccounts tokens before)
    {response : Response} (hanswer : answer = some response) {kind : TokenKind} {token : String}
    (htoken : response.token? kind = some token) : ∃ x ∈ after.users.subjects, tokens.Mints kind x token := by
  have hfree {bare : Response} (hbare : bare.TokenFree) (hfinish : some (finish m r bare) = some response) :
      False := by
    obtain rfl := Option.some.inj hfinish
    exact absurd htoken (by simp [hbare.finish kind])
  cases h with
  | unchanged hunchanged => exact absurd htoken (by simp [hunchanged response hanswer kind])
  | @registered _ _ _ user issued _ _ _ _ _ _ _ issue =>
    obtain rfl := Option.some.inj hanswer
    have hissued := (Response.token?_registered 200 ⟨user, issued⟩ kind).symm.trans
      (Response.token?_of_token?_finish htoken)
    obtain rfl := Option.some.inj hissued
    refine ⟨user.subject, ?_, TokenConfig.mints_of_issue issue kind⟩
    obtain ⟨_, expiry, -, -, -, rfl⟩ := TokenConfig.of_issue_eq_ok issue
    rw [Directory.subjects_add]
    exact List.mem_append_right _ (List.mem_singleton_self _)
  | stranded => exact absurd hanswer (by simp)
  | @loggedIn _ row issued _ _ _ found _ issue =>
    obtain rfl := Option.some.inj hanswer
    have hissued := (Response.token?_issued 200 issued kind).symm.trans (Response.token?_of_token?_finish htoken)
    obtain rfl := Option.some.inj hissued
    refine ⟨row.user.subject, ?_, TokenConfig.mints_of_issue issue kind⟩
    obtain ⟨_, expiry, -, -, -, rfl⟩ := TokenConfig.of_issue_eq_ok issue
    exact List.mem_map_of_mem (List.mem_of_find?_eq_some found)
  | @refreshed _ issued _ _ _ refresh =>
    obtain rfl := Option.some.inj hanswer
    have hissued := (Response.token?_issued 200 issued kind).symm.trans (Response.token?_of_token?_finish htoken)
    obtain rfl := Option.some.inj hissued
    obtain ⟨-, x, hx, hmints⟩ := hbefore.refresh refresh
    exact ⟨x, hx, hmints kind⟩
  | loggedOut => exact (hfree (tokenFree_deleted _) hanswer).elim
  | revoked => exact (hfree (tokenFree_deleted _) hanswer).elim
  | profileChanged => exact (hfree (Response.tokenFree_user 200 _) hanswer).elim
  | passwordChanged => exact (hfree (Response.tokenFree_user 200 _) hanswer).elim

/-! ### One request after the other -/

/-- The state after some requests, each at its own moment. -/
def run {σ : Type} (s : Server σ) (start : σ) (requests : List (Moment × Request)) : σ :=
  requests.foldl (fun state q => (s.handle q.1 q.2 state).2) start

theorem run_append {σ : Type} (s : Server σ) (start : σ) (earlier later : List (Moment × Request)) :
    s.run start (earlier ++ later) = s.run (s.run start earlier) later :=
  List.foldl_append

theorem run_concat {σ : Type} (s : Server σ) (start : σ) (earlier : List (Moment × Request))
    (q : Moment × Request) : s.run start (earlier ++ [q]) = (s.handle q.1 q.2 (s.run start earlier)).2 :=
  run_append s start earlier [q]

/-- What every request preserves, a run preserves. -/
theorem run_invariant {σ : Type} {s : Server σ} {P : σ → Prop}
    (hstep : ∀ m r state, P state → P (s.handle m r state).2) {start : σ} (h : P start)
    (requests : List (Moment × Request)) : P (s.run start requests) := by
  induction requests generalizing start with
  | nil => exact h
  | cons q requests ih => exact ih (hstep q.1 q.2 start h)

/-- Whatever is asked, accounts stay the subjects that they are. -/
theorem subjects_run (tokens : TokenConfig) (scanLimit hashCost : Nat) (start : Memory)
    (requests : List (Moment × Request)) :
    start.users.subjects <+: ((inMemory tokens scanLimit hashCost).run start requests).users.subjects := by
  refine run_invariant (P := fun after : Memory => start.users.subjects <+: after.users.subjects)
    (fun m r before hbefore => ?_) List.prefix_rfl requests
  exact hbefore.trans (handle_outcome tokens scanLimit hashCost m r before).subjects

/-- Whatever is asked, every record is one of an account. -/
theorem namesAccounts_run {start : Memory} (h : NamesAccounts tokens start) (requests : List (Moment × Request)) :
    NamesAccounts tokens ((inMemory tokens scanLimit hashCost).run start requests) :=
  run_invariant (fun m r before => (handle_outcome tokens scanLimit hashCost m r before).namesAccounts) h requests

/-- **Every token names one account, from the answer on.** The stores are empty at first; whatever was asked
since, and whatever is asked later, the id, username and role in a token are those of the account at one
index, and the role is that of an admin only at the first. -/
theorem token_names_account (tokens : TokenConfig) (scanLimit hashCost : Nat)
    (earlier : List (Moment × Request)) (m : Moment) (r : Request) {response : Response} {kind : TokenKind}
    {token : String}
    (hanswer : ((inMemory tokens scanLimit hashCost).handle m r
      ((inMemory tokens scanLimit hashCost).run {} earlier)).1 = some response)
    (htoken : response.token? kind = some token) :
    ∃ (k : Claims) (i : Nat), SignedToken.payload? token = some k ∧ (k.role = adminRole ↔ i = 0) ∧
      ∀ later, ∃ row,
        ((inMemory tokens scanLimit hashCost).run {} (earlier ++ (m, r) :: later)).users.users[i]? = some row ∧
          row.user.id = k.sub ∧ row.user.username = k.username ∧ row.user.role = k.role := by
  have hbefore : NamesAccounts tokens ((inMemory tokens scanLimit hashCost).run {} earlier) :=
    namesAccounts_run .empty earlier
  generalize hstate : (inMemory tokens scanLimit hashCost).run {} earlier = before at hanswer hbefore
  have houtcome := handle_outcome tokens scanLimit hashCost m r before
  obtain ⟨x, hx, hmints⟩ := houtcome.mints hbefore hanswer htoken
  obtain ⟨k, hpayload, rfl⟩ := hmints.payload
  obtain ⟨i, hi⟩ := List.mem_iff_getElem?.mp hx
  refine ⟨k, i, hpayload, (houtcome.namesAccounts hbefore).admin i k.subject hi, fun later => ?_⟩
  have hrun : (inMemory tokens scanLimit hashCost).run {} (earlier ++ (m, r) :: later) =
      (inMemory tokens scanLimit hashCost).run
        ((inMemory tokens scanLimit hashCost).handle m r before).2 later := by
    rw [run_append, hstate]
    rfl
  have hprefix := subjects_run tokens scanLimit hashCost
    ((inMemory tokens scanLimit hashCost).handle m r before).2 later
  obtain ⟨hlt, hget⟩ := List.getElem?_eq_some_iff.mp hi
  have hkept := List.prefix_iff_getElem?.mp hprefix i hlt
  rw [hget, Directory.subjects, List.getElem?_map, Option.map_eq_some_iff] at hkept
  obtain ⟨row, hrow, hsubject⟩ := hkept
  refine ⟨row, hrun ▸ hrow, ?_⟩
  exact ⟨congrArg Subject.id hsubject, congrArg Subject.username hsubject, congrArg Subject.role hsubject⟩

/-- The access token that the sample registration is answered with names the first account for good. -/
theorem sample_token_names_account :
    ∃ (response : Response) (token : String) (k : Claims),
      ((inMemory sampleConfig 10 4).handle sampleMoment sampleRegistration {}).1 = some response ∧
        response.token? .access = some token ∧ SignedToken.payload? token = some k ∧ k.role = adminRole ∧
        ∀ later, ∃ row,
          ((inMemory sampleConfig 10 4).run {}
            ([] ++ (sampleMoment, sampleRegistration) :: later)).users.users[0]? = some row ∧
            row.user.id = k.sub ∧ row.user.username = k.username ∧ row.user.role = k.role := by
  obtain ⟨issued, hash, after, hissue, hanswer⟩ := sample_registration
  have hresponse : ((inMemory sampleConfig 10 4).handle sampleMoment sampleRegistration
      ((inMemory sampleConfig 10 4).run {} [])).1 = _ := congrArg Prod.fst hanswer
  have htoken : (finish sampleMoment sampleRegistration
      (.json 200 (Registered.toJson ⟨sampleUser, issued⟩))).token? .access = some issued.accessToken := rfl
  obtain ⟨k, i, hpayload, hadmin, hrow⟩ :=
    token_names_account sampleConfig 10 4 [] sampleMoment sampleRegistration hresponse htoken
  obtain ⟨minted, hminted, hsubject⟩ := (TokenConfig.mints_of_issue hissue .access).payload
  obtain rfl : k = minted := Option.some.inj (hpayload.symm.trans hminted)
  have hrole : k.role = adminRole := congrArg Subject.role hsubject
  obtain rfl : i = 0 := hadmin.mp hrole
  exact ⟨_, _, k, hresponse, htoken, hpayload, hrole, hrow⟩

end Server

end Gatehouse

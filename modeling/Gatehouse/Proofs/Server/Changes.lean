import Gatehouse.Proofs.Server.AccountSteps

/-!
# Who may change what

A request changes the token record of a subject only if it is entitled to (`Server.RecordGrant`): by a
password, by the record's own refresh token, or by the access token of the subject or of an admin. It changes
an account only if it bears an access token of that account (`Server.RowGrant`). All else stays as it was,
whatever the stores hold, and whatever is asked (`Server.changes_are_granted`).
-/

namespace Gatehouse.Server

open Http (Headers Request Response isReadable)

/-- What entitles a request to write the token record of a subject. -/
inductive RecordGrant (tokens : TokenConfig) (m : Moment) (r : Request) (before after : Memory)
    (subject : String) : Prop where
  /-- It registers the subject. -/
  | register {wish : Registration} {row : StoredUser} (asks : r.Asks (.free .register))
      (payload : RequestReader.payload Registration.shape r = .ok wish)
      (created : after.users = before.users.add row) (username : row.user.username = Text.trim wish.username)
      (id : row.user.id = subject)
  /-- It has the username of the subject and a password with the stored hash. -/
  | login {wish : Login} {row : StoredUser} (asks : r.Asks (.free .login))
      (payload : RequestReader.payload Login.shape r = .ok wish) (known : row ∈ before.users.users)
      (username : row.user.username = wish.username) (id : row.user.id = subject)
      (password : verifyPassword wish.password row.passwordHash = .ok true)
  /-- It has the refresh token that the record keeps, and an access token of the subject. -/
  | refresh {wish : TokenPair} {record : TokenRecord} {claims : Claims} (asks : r.Asks (.free .refresh))
      (payload : RequestReader.payload TokenPair.shape r = .ok wish)
      (found : before.records.find subject = some record)
      (stored : tokens.storedToken record = .ok wish.refresh)
      (access : tokens.verify wish.access .access false m.now = .ok claims) (sub : claims.sub = subject)
  /-- It bears an access token of the subject, and ends the subject's session. -/
  | logout {caller : Claims} (asks : r.Asks (.guarded .logout)) (bears : Bears tokens m r caller)
      (own : caller.sub = subject)
  /-- It bears an access token of the subject or of an admin, and names the subject. -/
  | revoke {caller : Claims} (asks : r.Asks (.guarded .revoke)) (bears : Bears tokens m r caller)
      (payload : RequestReader.payload (textShape "subject") r = .ok subject)
      (allowed : caller.sub = subject ∨ caller.role = adminRole)

/-- What entitles a request to change an account. -/
inductive RowGrant (tokens : TokenConfig) (m : Moment) (r : Request) (row : StoredUser) : Prop where
  /-- It bears an access token of the account, and replaces the profile. -/
  | profile {caller : Claims} (asks : r.Asks (.guarded .ownProfile)) (bears : Bears tokens m r caller)
      (own : caller.sub = row.user.id)
  /-- It bears an access token of the account, and has a password with the stored hash. -/
  | password {caller : Claims} {change : PasswordChange} (asks : r.Asks (.guarded .ownPassword))
      (bears : Bears tokens m r caller) (own : caller.sub = row.user.id)
      (payload : RequestReader.payload PasswordChange.shape r = .ok change)
      (old : verifyPassword change.old row.passwordHash = .ok true)

variable {tokens : TokenConfig} {scanLimit hashCost : Nat} {m : Moment} {r : Request} {before after : Memory}
  {answer : Option Response}

/-! ### Records -/

/-- No record is written, or one is, and the request is entitled to write it. -/
theorem Outcome.records (h : Outcome tokens hashCost m r before answer after) :
    after.records = before.records ∨
      ∃ subject, RecordGrant tokens m r before after subject ∧
        ∀ k, k ≠ subject → after.records.find k = before.records.find k := by
  cases h with
  | unchanged => exact .inl rfl
  | stranded => exact .inl rfl
  | profileChanged => exact .inl rfl
  | passwordChanged => exact .inl rfl
  | @registered wish order hash user issued _ asks payload tidy _ _ made issue =>
    obtain ⟨_, expiry, -, -, -, rfl⟩ := TokenConfig.of_issue_eq_ok issue
    refine .inr ⟨user.id, .register asks payload rfl ?_ rfl, fun k hk => ?_⟩
    · obtain ⟨rfl, -, -⟩ := Registration.of_tidy_eq_ok tidy
      rw [made]
      rfl
    · exact (RecordStore.find_upsert ..).trans (if_neg hk)
  | @loggedIn wish row issued _ asks payload found password issue =>
    obtain ⟨_, expiry, -, -, -, rfl⟩ := TokenConfig.of_issue_eq_ok issue
    refine .inr ⟨row.user.id, .login asks payload (List.mem_of_find?_eq_some found) ?_ rfl password, fun k hk => ?_⟩
    · simpa using List.find?_some found
    · exact (RecordStore.find_upsert ..).trans (if_neg hk)
  | refreshed asks payload refresh =>
    obtain ⟨a, k, record, _, expiry, haccepts, -, rfl, rfl⟩ := TokenConfig.of_refresh_eq_ok refresh
    have hfound : before.records.find record.subject = some record := by
      rw [← haccepts.refreshSubject, haccepts.found]
    refine .inr ⟨record.subject, ?_, fun k hk => (RecordStore.find_write ..).trans (if_neg hk)⟩
    exact .refresh asks payload hfound haccepts.stored haccepts.access haccepts.accessSubject
  | @loggedOut caller asks bears =>
    refine .inr ⟨caller.sub, .logout asks bears rfl, fun k hk => ?_⟩
    exact (RecordStore.find_delete ..).trans (if_neg hk)
  | @revoked caller subject asks bears payload allowed =>
    refine .inr ⟨subject, .revoke asks bears payload ?_, fun k hk => ?_⟩
    · exact allowed.imp_right of_decide_eq_true
    · exact (RecordStore.find_delete ..).trans (if_neg hk)

/-! ### Accounts -/

/-- No account is touched, or one is added, or one is changed where it stands, and the request is entitled to
change it. -/
theorem Outcome.rows (h : Outcome tokens hashCost m r before answer after) :
    after.users = before.users ∨
      (r.Asks (.free .register) ∧ ∃ row, after.users = before.users.add row) ∨
      ∃ (i : Nat) (row row' : StoredUser), before.users.users[i]? = some row ∧ RowGrant tokens m r row ∧
        after.users.users = before.users.users.set i row' := by
  have hstep := h.accountStep
  generalize after.users = users at hstep ⊢
  cases hstep with
  | kept => exact .inl rfl
  | made asks => exact .inr (.inl ⟨asks, _, rfl⟩)
  | replaced asks bears _ _ _ _ found id =>
    exact .inr (.inr ⟨_, _, _, found, .profile asks bears id.symm, rfl⟩)
  | rehashed asks bears payload found id password =>
    exact .inr (.inr ⟨_, _, _, found, .password asks bears id.symm payload password, rfl⟩)

/-! ### Both -/

/-- **A request changes nothing but what it is entitled to change**: at most one token record, at most one
account where it stands, and the accounts grow only by a registration. -/
theorem changes_are_granted (tokens : TokenConfig) (scanLimit hashCost : Nat) (m : Moment) (r : Request)
    (before : Memory) :
    let after := ((inMemory tokens scanLimit hashCost).handle m r before).2
    (∀ subject, after.records.find subject ≠ before.records.find subject →
      RecordGrant tokens m r before after subject ∧
        ∀ other, other ≠ subject → after.records.find other = before.records.find other) ∧
    (∀ (i : Nat) (row : StoredUser), before.users.users[i]? = some row → after.users.users[i]? ≠ some row →
      RowGrant tokens m r row ∧ ∀ j, j ≠ i → after.users.users[j]? = before.users.users[j]?) ∧
    (after.users.users.length ≠ before.users.users.length →
      r.Asks (.free .register) ∧ ∃ row, after.users = before.users.add row) := by
  intro after
  have houtcome : Outcome tokens hashCost m r before _ after := handle_outcome tokens scanLimit hashCost m r before
  refine ⟨fun subject hchanged => ?_, ?_⟩
  · rcases houtcome.records with hsame | ⟨written, hgrant, hframe⟩
    · exact absurd (by rw [hsame]) hchanged
    · obtain rfl : subject = written := by
        by_contra hne
        exact hchanged (hframe subject hne)
      exact ⟨hgrant, hframe⟩
  rcases houtcome.rows with hsame | ⟨hasks, row, hadd⟩ | ⟨i, row, row', hi, hgrant, hset⟩
  · rw [hsame]
    exact ⟨fun i row hi hchanged => absurd hi hchanged, fun hlength => absurd rfl hlength⟩
  · refine ⟨fun i row' hi hchanged => ?_, fun _ => ⟨hasks, row, hadd⟩⟩
    rw [hadd, Directory.add, List.getElem?_append_left (List.getElem?_eq_some_iff.mp hi).1] at hchanged
    exact absurd hi hchanged
  · rw [hset]
    refine ⟨fun j row'' hj hchanged => ?_, fun hlength => absurd List.length_set hlength⟩
    obtain rfl : i = j := by
      by_contra hne
      exact hchanged (by rw [List.getElem?_set_ne hne, hj])
    obtain rfl : row = row'' := Option.some.inj (hi.symm.trans hj)
    exact ⟨hgrant, fun k hk => List.getElem?_set_ne (Ne.symm hk)⟩

/-! ### A sample -/

/-- A sample change of profile by the bearer of a token. -/
def sampleProfileChange (token : String) : Request where
  method := "PUT"
  path := "/users/me/profile"
  headers := [⟨"content-type", "application/json"⟩, ⟨"authorization", "Bearer " ++ token⟩]
  body := Utf8.encode "\x7b\"name\":\"Robert\"\x7d"

theorem sample_profile_payload (token : String) :
    RequestReader.payload ProfileWish.shape (sampleProfileChange token) = .ok ⟨"Robert", none⟩ := by
  have htype : (sampleProfileChange token).headers.first? "content-type" = some "application/json" :=
    Headers.first?_cons_self ..
  have hsize : (sampleProfileChange token).body.length ≤ RequestReader.maxBodySize := by
    change (sampleProfileChange "").body.length ≤ RequestReader.maxBodySize
    decide
  exact RequestReader.payload_of_first? htype hsize rfl

theorem sample_profile_bearer {token : String} (h : isReadable token = true) :
    RequestReader.bearer (sampleProfileChange token) = .ok token :=
  RequestReader.bearer_of_first? (Headers.first?_authorization ..) h

/-- On empty stores the sample registration is granted a record, and then its bearer a change of profile. -/
theorem sample_changes_are_granted :
    ∃ (token : String) (row : StoredUser),
      let server := inMemory sampleConfig 10 4
      let first := (server.handle sampleMoment sampleRegistration {}).2
      let second := (server.handle sampleMoment (sampleProfileChange token) first).2
      first.records.find sampleUser.id ≠ none ∧
        RecordGrant sampleConfig sampleMoment sampleRegistration {} first sampleUser.id ∧
        first.users.users[0]? = some row ∧ second.users.users[0]? ≠ some row ∧
        RowGrant sampleConfig sampleMoment (sampleProfileChange token) row := by
  obtain ⟨issued, hash, after, hissue, hanswer⟩ := sample_registration
  obtain ⟨access, expiry, hexpiries, htoken, -, rfl⟩ := TokenConfig.of_issue_eq_ok hissue
  obtain ⟨haccess, -⟩ := sampleConfig.expiries?_eq_some_iff.mp hexpiries
  obtain rfl : (⟨900, 0⟩ : Instant) = access := Option.some.inj haccess
  have hreadable : isReadable issued.accessToken = true := by
    rw [htoken]
    exact RequestReader.isReadable_sign _ _
  have hbears : Bears sampleConfig sampleMoment (sampleProfileChange issued.accessToken)
      (Claims.minted sampleUser.subject ⟨0, 0⟩ ⟨900, 0⟩ sampleDraws.accessId.render) := by
    refine ⟨issued.accessToken, sample_profile_bearer hreadable, ?_⟩
    rw [htoken]
    exact (sampleConfig.verify_minted_eq_ok_iff .access haccess).mpr ⟨by decide, fun _ => by decide, rfl⟩
  have hasks : (sampleProfileChange issued.accessToken).Asks (.guarded .ownProfile) := ⟨rfl, rfl⟩
  refine ⟨issued.accessToken, ⟨sampleUser, hash⟩, ?_⟩
  intro server first second
  have hfirst : first.users.users = [⟨sampleUser, hash⟩] := by
    rw [show first = _ from congrArg Prod.snd hanswer]
  have hfound : first.records.find sampleUser.id ≠ none := by
    rw [show first = _ from congrArg Prod.snd hanswer]
    exact ne_of_eq_of_ne ((RecordStore.find_upsert ..).trans (if_pos rfl)) (Option.some_ne_none _)
  have hsecond : second.users.users = [⟨{ sampleUser with name := "Robert", updatedAt := ⟨0, 0⟩ }, hash⟩] := by
    have hguarded := handle_guarded (s := inMemory sampleConfig 10 4) hasks hbears first
    rw [show second = _ from congrArg Prod.snd hguarded, show first = _ from congrArg Prod.snd hanswer]
    dsimp only
    rw [answerGuarded, Handler.need_bind_apply, sample_profile_payload]
    dsimp only
    rw [Handler.answer_apply, updateProfile_eq]
    rfl
  have hrow : first.users.users[0]? = some ⟨sampleUser, hash⟩ := by
    rw [hfirst]
    rfl
  have hchanged : second.users.users[0]? ≠ some ⟨sampleUser, hash⟩ := by
    rw [hsecond]
    simp [sampleUser]
  obtain ⟨hrecords, -, -⟩ := changes_are_granted sampleConfig 10 4 sampleMoment sampleRegistration {}
  obtain ⟨-, hrows, -⟩ := changes_are_granted sampleConfig 10 4 sampleMoment
    (sampleProfileChange issued.accessToken) first
  exact ⟨hfound, (hrecords sampleUser.id hfound).1, hrow, hchanged, (hrows 0 _ hrow hchanged).1⟩

end Gatehouse.Server

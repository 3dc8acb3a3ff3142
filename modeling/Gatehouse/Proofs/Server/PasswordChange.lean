import Gatehouse.Proofs.Server.LoggingIn

/-!
# Logging in after a change of password

A change of password that succeeds has put the hash of the new password in the place of the old one, for the account
of the caller; and since no two accounts share a username (`Server.nodup_usernames_run`), that is the account that a
login with the username finds. So the new password is welcomed.

The old one is refused only if its digest is another one. The check that the two passwords differ compares them as
texts, and a digest does not tell all texts apart (`Crypto.Bcrypt.material`): two passwords that begin with the same
72 bytes have one digest, and then the old one goes on being welcomed (`Server.old_password_refused_iff`).
-/

namespace Gatehouse

open Http (Headers Request Response)

/-! ### Usernames -/

namespace Directory

variable {d : Directory}

/-- The usernames of the accounts, in order. -/
def usernames (d : Directory) : List String := d.users.map (·.user.username)

theorem usernames_eq_of_subjects_eq {d' : Directory} (h : d.subjects = d'.subjects) : d.usernames = d'.usernames := by
  have hmap (d : Directory) : d.usernames = d.subjects.map Subject.username := by
    rw [subjects, List.map_map]
    rfl
  rw [hmap, hmap, h]

/-- With distinct usernames every account is found by its own. -/
theorem findByUsername_of_mem (hnodup : d.usernames.Nodup) {row : StoredUser} (hrow : row ∈ d.users) :
    d.findByUsername row.user.username = some row := by
  cases hfound : d.findByUsername row.user.username with
  | none =>
    rw [findByUsername, List.find?_eq_none] at hfound
    exact absurd (decide_eq_true rfl) (hfound row hrow)
  | some other =>
    have hother : other ∈ d.users := by
      rw [findByUsername] at hfound
      exact List.mem_of_find?_eq_some hfound
    rw [List.inj_on_of_nodup_map hnodup hother hrow (username_of_findByUsername hfound)]

/-- A username that is free may be given to a new account. -/
theorem nodup_usernames_add (hnodup : d.usernames.Nodup) {row : StoredUser} {email : Option String}
    (hfree : d.taken row.user.username email = false) : (d.add row).usernames.Nodup := by
  rw [usernames, add, List.map_append, List.map_singleton, ← List.concat_eq_append]
  refine hnodup.concat fun hmem => ?_
  obtain ⟨other, hother, hname⟩ := List.mem_map.mp hmem
  have hfound := findByUsername_of_mem hnodup hother
  rw [hname, findByUsername_of_free hfree] at hfound
  cases hfound

end Directory

namespace Server

variable {tokens : TokenConfig} {scanLimit hashCost : Nat} {m : Moment} {r : Request} {before after : Memory}
  {answer : Option Response}

/-- **Whatever is asked, usernames stay distinct.** -/
theorem nodup_usernames_run {start : Memory} (h : start.users.usernames.Nodup) (requests : List (Moment × Request)) :
    ((inMemory tokens scanLimit hashCost).run start requests).users.usernames.Nodup := by
  refine run_invariant (P := fun state : Memory => state.users.usernames.Nodup) (fun m r before hbefore => ?_) h requests
  rcases (handle_outcome tokens scanLimit hashCost m r before).subjects_eq_or_add with
    hsame | ⟨row, email, hfree, hadd⟩
  · rw [Directory.usernames_eq_of_subjects_eq hsame]
    exact hbefore
  · rw [hadd]
    exact Directory.nodup_usernames_add hbefore hfree

/-! ### A change of password -/

section Change

variable {caller : Claims} {change : PasswordChange}

/-- A change of password that can be read is answered as its service ends. -/
theorem handle_changePassword (asks : r.Asks (.guarded .ownPassword)) (bears : Bears tokens m r caller)
    (payload : RequestReader.payload PasswordChange.shape r = .ok change) :
    (inMemory tokens scanLimit hashCost).handle m r before =
      (conclude m r
        (Handler.answer User.toJson ((inMemory tokens scanLimit hashCost).changePassword m caller change) before).1,
        ((inMemory tokens scanLimit hashCost).changePassword m caller change before).2) := by
  rw [handle_guarded (s := inMemory tokens scanLimit hashCost) asks bears, answerGuarded, Handler.need_bind_apply,
    payload]
  dsimp only
  rw [Handler.answer_apply]

/-- A change of password that succeeds has put the hash of the new password in place. -/
theorem of_changePassword_eq_ok {user : User}
    (h : (inMemory tokens scanLimit hashCost).changePassword m caller change before = (.ok user, after)) :
    ∃ row hash, before.users.findById caller.sub = some row ∧
      hashPassword hashCost m.salt change.new = .ok hash ∧
      after = { before with users := (before.users.setPasswordHash caller.sub hash m.now).2 } := by
  rw [changePassword_eq] at h
  split at h
  · exact absurd (Prod.mk.inj h).1 nofun
  next row hfound =>
  split at h
  · exact absurd (Prod.mk.inj h).1 nofun
  split at h
  · exact absurd (Prod.mk.inj h).1 nofun
  · exact absurd (Prod.mk.inj h).1 nofun
  split at h
  · exact absurd (Prod.mk.inj h).1 nofun
  next hash hhash => exact ⟨row, hash, hfound, hhash, (Prod.mk.inj h).2.symm⟩

/-- After a change of password the username leads to the same account, with the new hash. -/
theorem findByUsername_setPasswordHash {d : Directory} (hnodup : d.usernames.Nodup) {id : String} {row : StoredUser}
    (hfound : d.findById id = some row) (hash : String) (now : Instant) :
    (d.setPasswordHash id hash now).2.findByUsername row.user.username =
      some ⟨{ row.user with updatedAt := now }, hash⟩ := by
  have hkept := Directory.usernames_eq_of_subjects_eq (Directory.subjects_setPasswordHash hfound hash now)
  obtain ⟨i, hi, hset, -⟩ := Directory.setPasswordHash_of_findById hfound hash now
  rw [hset] at hkept ⊢
  have hlt := (List.getElem?_eq_some_iff.mp hi).1
  exact Directory.findByUsername_of_mem (hkept ▸ hnodup) (List.mem_set hlt _)

/-- **After a change of password, a password is welcomed exactly if it has the digest of the new one.** Whatever was
asked before of a server whose usernames were distinct at first: if a change of password is answered by status 200,
then a login as the caller is welcomed as the same account if the password has the digest that the new one has under
the new salt (and no expiry lies outside the calendar), and refused as bad credentials if it has not. So the new
password is welcomed; and the old one is refused exactly if the two digests differ, which they do not if the passwords
are of the same material. -/
theorem old_password_refused_iff (tokens : TokenConfig) (scanLimit hashCost : Nat) (start : Memory)
    (hstart : start.users.usernames.Nodup) (earlier : List (Moment × Request)) (m : Moment) {r : Request}
    {caller : Claims} {change : PasswordChange} {response : Response} (asks : r.Asks (.guarded .ownPassword))
    (bears : Bears tokens m r caller) (payload : RequestReader.payload PasswordChange.shape r = .ok change) :
    let server := inMemory tokens scanLimit hashCost
    let before := server.run start earlier
    (server.handle m r before).1 = some response → response.status = 200 →
      ∃ row, before.users.findById caller.sub = some row ∧
        (∀ m' r' password, r'.Asks (.free .login) →
          RequestReader.payload Login.shape r' = .ok ⟨row.user.username, password⟩ →
          let answer := (server.handle m' r' (server.handle m r before).2).1
          let same := Crypto.Bcrypt.digest hashCost m.salt.bytes password =
            Crypto.Bcrypt.digest hashCost m.salt.bytes change.new
          (Welcomes answer row.user.subject ↔ same ∧ (tokens.expiries? m'.now).isSome = true) ∧
            (¬ same → answer = some (finish m' r' Refusal.badCredentials.toResponse))) ∧
        (Crypto.Bcrypt.material change.old = Crypto.Bcrypt.material change.new →
          Crypto.Bcrypt.digest hashCost m.salt.bytes change.old =
            Crypto.Bcrypt.digest hashCost m.salt.bytes change.new) := by
  intro server before hanswer hok
  have hnodup : before.users.usernames.Nodup := nodup_usernames_run hstart earlier
  generalize before = before at hanswer hnodup
  rw [handle_changePassword asks bears payload] at hanswer ⊢
  obtain ⟨user, hresult, -⟩ := of_conclude_answer_eq_ok hanswer hok
  obtain ⟨after, hchange⟩ : ∃ after,
      (inMemory tokens scanLimit hashCost).changePassword m caller change before = (.ok user, after) :=
    ⟨_, Prod.ext hresult rfl⟩
  obtain ⟨row, hash, hfound, hhash, rfl⟩ := of_changePassword_eq_ok hchange
  rw [hchange]
  have hnow := findByUsername_setPasswordHash hnodup hfound hash m.now
  have hverify := verifyPassword_of_hashPassword hhash
  refine ⟨row, hfound, fun m' r' password asks' payload' => ?_, fun h => Crypto.Bcrypt.digest_congr h _ _⟩
  dsimp only
  constructor
  · rw [welcomes_iff asks' payload', and_comm]
    refine and_congr_left fun _ => ?_
    dsimp only
    constructor
    · rintro ⟨row', hrow', hpassword, -⟩
      obtain rfl := Option.some.inj (hnow.symm.trans hrow')
      exact of_decide_eq_true (Except.ok.inj ((hverify password).symm.trans hpassword))
    · intro hsame
      exact ⟨_, hnow, (hverify password).trans (congrArg _ (decide_eq_true hsame)), rfl⟩
  · intro hdiffer
    refine refused_login asks' payload' (.inr ⟨_, hnow, ?_⟩)
    exact (hverify password).trans (congrArg _ (decide_eq_false hdiffer))

end Change

/-! ### A sample -/

/-- As many letters as count. -/
def sampleLetters : List Char := List.replicate 72 'a'

/-- A password of these letters. -/
def sampleLongPassword : String := String.ofList sampleLetters

/-- A password with one more. -/
def sampleLongerPassword : String := String.ofList (sampleLetters ++ ['b'])

/-- The bearer of a token changes the one to the other. -/
def samplePasswordChange (token : String) : Request where
  method := "PUT"
  path := "/users/me/change-password"
  headers := [⟨"content-type", "application/json"⟩, ⟨"authorization", "Bearer " ++ token⟩]
  body := Utf8.encode "\x7b\"oldPassword\":\"" ++ Utf8.encodeChars sampleLetters ++
    Utf8.encode "\",\"newPassword\":\"" ++ Utf8.encodeChars (sampleLetters ++ ['b']) ++ Utf8.encode "\"\x7d"

/-- The login with a password of some letters. -/
def sampleLettersLogin (letters : List Char) : Request :=
  { samplePost "/auth/login" "" with
    body := Utf8.encode "\x7b\"username\":\"bob\",\"password\":\"" ++ Utf8.encodeChars letters ++
      Utf8.encode "\"\x7d" }

theorem payload_samplePasswordChange (token : String) :
    RequestReader.payload PasswordChange.shape (samplePasswordChange token) =
      .ok ⟨sampleLongPassword, sampleLongerPassword⟩ := by
  refine RequestReader.payload_of_first? (Headers.first?_cons_self ..) ?_ ?_
  · change (samplePasswordChange "").body.length ≤ RequestReader.maxBodySize
    decide +kernel
  · change PasswordChange.shape.read (Json.Token.ofBytes (samplePasswordChange "").body) = _
    decide +kernel

theorem bearer_samplePasswordChange {token : String} (h : Http.isReadable token = true) :
    RequestReader.bearer (samplePasswordChange token) = .ok token :=
  RequestReader.bearer_of_first? (Headers.first?_authorization ..) h

theorem payload_long_login :
    RequestReader.payload Login.shape (sampleLettersLogin sampleLetters) = .ok ⟨"bob", sampleLongPassword⟩ :=
  RequestReader.payload_of_first? (Headers.first?_cons_self ..) (by decide) rfl

theorem payload_longer_login :
    RequestReader.payload Login.shape (sampleLettersLogin (sampleLetters ++ ['b'])) =
      .ok ⟨"bob", sampleLongerPassword⟩ :=
  RequestReader.payload_of_first? (Headers.first?_cons_self ..) (by decide) rfl

/-- The sample account, with a hash. -/
def sampleStores (hash : String) : Memory where
  users := ⟨[⟨sampleUser, hash⟩]⟩

/-- The sample change is answered by status 200. -/
theorem sample_password_is_changed :
    ∃ token caller hash hash' response,
      Bears sampleConfig sampleMoment (samplePasswordChange token) caller ∧ caller.sub = sampleUser.id ∧
      hashPassword 4 sampleMoment.salt sampleLongerPassword = .ok hash' ∧
      (inMemory sampleConfig 10 4).handle sampleMoment (samplePasswordChange token) (sampleStores hash) =
        (some response, sampleStores hash') ∧
      response.status = 200 := by
  generalize htoken : sampleConfig.minted .access sampleUser.subject ⟨0, 0⟩ ⟨900, 0⟩ ⟨1⟩ = token
  have hreadable : Http.isReadable token = true := htoken ▸ RequestReader.isReadable_sign _ _
  have hexpiry : (⟨0, 0⟩ : Instant).add? (sampleConfig.lifetime .access) = some ⟨900, 0⟩ := by decide
  have hbears : Bears sampleConfig sampleMoment (samplePasswordChange token)
      (Claims.minted sampleUser.subject ⟨0, 0⟩ ⟨900, 0⟩ (Uuid.render ⟨1⟩)) := by
    refine ⟨token, bearer_samplePasswordChange hreadable, ?_⟩
    rw [← htoken]
    exact (sampleConfig.verify_minted_eq_ok_iff .access hexpiry).mpr ⟨by decide, fun _ => by decide, rfl⟩
  obtain ⟨hash, hhash⟩ : ∃ hash, hashPassword 4 sampleMoment.salt sampleLongPassword = .ok hash := ⟨_, rfl⟩
  obtain ⟨hash', hhash'⟩ : ∃ hash, hashPassword 4 sampleMoment.salt sampleLongerPassword = .ok hash := ⟨_, rfl⟩
  have hfound : (sampleStores hash).users.findById sampleUser.id = some ⟨sampleUser, hash⟩ := by
    rw [sampleStores, Directory.findById, List.find?_cons_of_pos (by simp)]
  have hpassword := verifyPassword_self hhash
  have hchange : (inMemory sampleConfig 10 4).changePassword sampleMoment
      (Claims.minted sampleUser.subject ⟨0, 0⟩ ⟨900, 0⟩ (Uuid.render ⟨1⟩))
      ⟨sampleLongPassword, sampleLongerPassword⟩ (sampleStores hash) = (.ok sampleUser, sampleStores hash') := by
    have hchecked : checkChange ⟨sampleLongPassword, sampleLongerPassword⟩ = .ok () := rfl
    rw [changePassword_eq, show Claims.sub _ = sampleUser.id from rfl, hfound]
    dsimp only
    rw [hchecked, hpassword, hhash']
    dsimp only
    rw [Directory.setPasswordHash, hfound]
    dsimp only [sampleStores]
    rw [Directory.modify, if_pos rfl]
    rfl
  have hhandle : (inMemory sampleConfig 10 4).handle sampleMoment (samplePasswordChange token) (sampleStores hash) =
      _ := handle_changePassword ⟨rfl, rfl⟩ hbears (payload_samplePasswordChange token)
  rw [Handler.answer_apply, hchange] at hhandle
  exact ⟨token, _, hash, hash', _, hbears, rfl, hhash', hhandle, rfl⟩

/-- The two passwords of the sample begin with the same 72 bytes. -/
theorem material_sampleLongPassword :
    Crypto.Bcrypt.material sampleLongPassword = Crypto.Bcrypt.material sampleLongerPassword := by
  have hlong : Utf8.encode sampleLongPassword = Utf8.encodeChars sampleLetters := by
    rw [Utf8.encode, sampleLongPassword, String.toList_ofList]
  have hlonger : Utf8.encode sampleLongerPassword = Utf8.encodeChars (sampleLetters ++ ['b']) := by
    rw [Utf8.encode, sampleLongerPassword, String.toList_ofList]
  apply Crypto.Bcrypt.material_eq_of_take_eq
  · rw [hlong]
    decide
  · rw [hlonger]
    decide
  · rw [hlong, hlonger]
    decide

/-- After the sample change, the new password is welcomed. -/
theorem sample_new_password_is_welcomed :
    let server := inMemory sampleConfig 10 4
    ∃ token start response, start.users.usernames.Nodup ∧
      (server.handle sampleMoment (samplePasswordChange token) (server.run start [])).1 = some response ∧
      response.status = 200 ∧
      let after := (server.handle sampleMoment (samplePasswordChange token) (server.run start [])).2
      Welcomes (server.handle sampleMoment (sampleLettersLogin (sampleLetters ++ ['b'])) after).1
        sampleUser.subject := by
  intro server
  obtain ⟨token, caller, hash, hash', response, hbears, hsub, -, hhandle, hok⟩ := sample_password_is_changed
  have hnodup : (sampleStores hash).users.usernames.Nodup := List.nodup_singleton _
  have hanswer : (server.handle sampleMoment (samplePasswordChange token) (server.run (sampleStores hash) [])).1 =
      some response := congrArg Prod.fst hhandle
  obtain ⟨row, hrow, hlogin, -⟩ := old_password_refused_iff sampleConfig 10 4 (sampleStores hash) hnodup []
    sampleMoment ⟨rfl, rfl⟩ hbears (payload_samplePasswordChange token) hanswer hok
  obtain rfl : (⟨sampleUser, hash⟩ : StoredUser) = row := by
    have hfound : (sampleStores hash).users.findById caller.sub = some row := hrow
    rw [hsub, sampleStores, Directory.findById, List.find?_cons_of_pos (by simp)] at hfound
    exact Option.some.inj hfound
  obtain ⟨hwelcomes, -⟩ := hlogin sampleMoment _ sampleLongerPassword ⟨rfl, rfl⟩ payload_longer_login
  exact ⟨token, sampleStores hash, response, hnodup, hanswer, hok, hwelcomes.mpr ⟨rfl, isSome_expiries_sample⟩⟩

/-- After the sample change, the old password is welcomed as well. -/
theorem old_password_is_welcomed :
    let server := inMemory sampleConfig 10 4
    ∃ token caller start response after,
      Bears sampleConfig sampleMoment (samplePasswordChange token) caller ∧
      RequestReader.payload PasswordChange.shape (samplePasswordChange token) =
        .ok ⟨sampleLongPassword, sampleLongerPassword⟩ ∧
      server.handle sampleMoment (samplePasswordChange token) start = (some response, after) ∧
      response.status = 200 ∧ caller.sub = sampleUser.id ∧
      Welcomes (server.handle sampleMoment (sampleLettersLogin sampleLetters) after).1 sampleUser.subject := by
  intro server
  obtain ⟨token, caller, hash, hash', response, hbears, hsub, hhash', hhandle, hok⟩ := sample_password_is_changed
  refine ⟨token, caller, sampleStores hash, response, sampleStores hash', hbears, payload_samplePasswordChange token,
    hhandle, hok, hsub, ?_⟩
  rw [welcomes_iff ⟨rfl, rfl⟩ payload_long_login]
  refine ⟨isSome_expiries_sample, ⟨sampleUser, hash'⟩, ?_, ?_, rfl⟩
  · exact Directory.findByUsername_of_mem (d := (sampleStores hash').users) (List.nodup_singleton _)
      (List.mem_singleton_self _)
  · have hsame := Crypto.Bcrypt.digest_congr material_sampleLongPassword 4 sampleMoment.salt.bytes
    rw [verifyPassword_of_hashPassword hhash', decide_eq_true hsame]

end Server

end Gatehouse

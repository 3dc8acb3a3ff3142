import Gatehouse.Proofs.Server.AdminOnly
import Gatehouse.Proofs.Server.Credentials

/-!
# Logging in after registering

Whoever is answered a login is welcomed as the account of the username, and only if the password is that of the
account (`Server.welcomes_iff`). The password that was registered is: its digest was written as text, and is read
again. The username is another matter. A registration drops the blanks around it, and a login does not; so whoever
has registered is welcomed exactly if the username is given without them (`Server.registered_log_in_iff_trimmed`).
-/

namespace Gatehouse

open Http (Request Response)

/-! ### Welcoming -/

/-- Both tokens of the response name a subject. -/
def Http.Response.Names (response : Response) (x : Subject) : Prop :=
  ∀ kind, ∃ token k, response.token? kind = some token ∧ SignedToken.payload? token = some k ∧ k.subject = x

/-- No response names two subjects. -/
theorem Http.Response.Names.unique {response : Response} {x y : Subject} (hx : response.Names x)
    (hy : response.Names y) : x = y := by
  obtain ⟨token, k, htoken, hpayload, rfl⟩ := hx .access
  obtain ⟨token', k', htoken', hpayload', rfl⟩ := hy .access
  obtain rfl := Option.some.inj (htoken.symm.trans htoken')
  obtain rfl := Option.some.inj (hpayload.symm.trans hpayload')
  rfl

theorem Directory.username_of_findByUsername {d : Directory} {username : String} {row : StoredUser}
    (h : d.findByUsername username = some row) : row.user.username = username := by
  rw [findByUsername] at h
  simpa using List.find?_some h

/-- A new account is found by its username, unless another one comes before it. -/
theorem Directory.findByUsername_add (d : Directory) (row : StoredUser) (username : String) :
    (d.add row).findByUsername username =
      (d.findByUsername username).or (if row.user.username = username then some row else none) := by
  rw [findByUsername, add, List.find?_append, findByUsername, List.find?_singleton]
  simp only [decide_eq_true_eq]

theorem Directory.findByUsername_of_free {d : Directory} {username : String} {email : Option String}
    (h : d.taken username email = false) : d.findByUsername username = none := by
  rw [findByUsername, List.find?_eq_none]
  intro row hrow
  have hfree := List.any_eq_false.mp h row hrow
  simp only [Bool.or_eq_true, decide_eq_true_eq, not_or] at hfree ⊢
  exact hfree.1

/-- An operation on tokens that succeeds as part of a service. -/
theorem Service.of_onTokens_eq_ok {σ α : Type} {act : Action σ (Stop AuthError) α} {s s' : σ} {a : α}
    (h : onTokens act s = (.ok a, s')) : act s = (.ok a, s') := by
  rw [onTokens, Action.mapError_apply] at h
  obtain ⟨hresult, hafter⟩ := Prod.mk.inj h
  rcases hact : act s with ⟨_ | a', after⟩
  · rw [hact] at hresult
    cases hresult
  · rw [hact] at hresult hafter
    obtain rfl := Except.ok.inj hresult
    exact congrArg (Prod.mk _) hafter

namespace Server

variable {tokens : TokenConfig} {scanLimit hashCost : Nat} {m : Moment} {r : Request} {before : Memory}
  {x : Subject}

/-- The answer is a success, with tokens for a subject. -/
def Welcomes (answer : Option Response) (x : Subject) : Prop :=
  ∃ response, answer = some response ∧ response.status = 200 ∧ response.Names x

/-- An answer by status 200 is what the service yielded. -/
theorem of_conclude_answer_eq_ok {α : Type} {toJson : α → Json} {act : Service Memory α} {response : Response}
    (hanswer : conclude m r (Handler.answer toJson act before).1 = some response) (hok : response.status = 200) :
    ∃ a, (act before).1 = .ok a ∧ response = finish m r (.json 200 (toJson a)) := by
  rw [Handler.answer_apply] at hanswer
  rcases hact : (act before).1 with (e | _) | a
  · rw [hact] at hanswer
    obtain rfl := Option.some.inj hanswer
    rw [finish_status] at hok
    exact absurd hok e.status_ne
  · rw [hact] at hanswer
    exact absurd hanswer nofun
  · rw [hact] at hanswer
    exact ⟨a, rfl, (Option.some.inj hanswer).symm⟩

/-- The tokens that are issued for a subject name it. -/
theorem names_of_issue {after : Memory} {issued : IssuedTokens} {response : Response}
    (hissue : tokens.issue Memory.recordAccess x m.now m.tokens before = (.ok issued, after))
    (htokens : ∀ kind, response.token? kind = some (issued.token kind)) : response.Names x := by
  intro kind
  obtain ⟨k, hpayload, hsubject⟩ := (TokenConfig.mints_of_issue hissue kind).payload
  exact ⟨issued.token kind, k, htokens kind, hpayload, hsubject⟩

/-- Answers to `POST` keep their tokens. -/
theorem token?_finish {route : OpenRoute} (asks : r.Asks (.free route)) (hpost : route.verb = .post)
    (response : Response) (kind : TokenKind) : (finish m r response).token? kind = response.token? kind := by
  rw [Response.token?, finish_body asks hpost, Response.token?]

/-! ### A login -/

section Login

variable {wish : Login} (asks : r.Asks (.free .login)) (payload : RequestReader.payload Login.shape r = .ok wish)

include asks payload

/-- A login that can be read is answered as its service ends. -/
theorem handle_login : ((inMemory tokens scanLimit hashCost).handle m r before).1 =
    conclude m r
      (Handler.answer IssuedTokens.toJson ((inMemory tokens scanLimit hashCost).login m wish) before).1 := by
  rw [handle_open asks, answerOpen, Handler.need_bind_apply, payload]

/-- **A login is welcomed as the account of the username**, with its password, and unless an expiry lies outside
the calendar. -/
theorem welcomes_iff : Welcomes ((inMemory tokens scanLimit hashCost).handle m r before).1 x ↔
    (tokens.expiries? m.now).isSome = true ∧ ∃ row, before.users.findByUsername wish.username = some row ∧
      verifyPassword wish.password row.passwordHash = .ok true ∧ row.user.subject = x := by
  rw [handle_login asks payload]
  constructor
  · rintro ⟨response, hanswer, hok, hnames⟩
    obtain ⟨issued, hlogin, rfl⟩ := of_conclude_answer_eq_ok hanswer hok
    rw [login_eq] at hlogin
    split at hlogin
    · exact absurd hlogin nofun
    next row hfound =>
    split at hlogin
    · exact absurd hlogin nofun
    · exact absurd hlogin nofun
    next hpassword =>
    have hissue := Service.of_onTokens_eq_ok (Prod.ext hlogin rfl)
    obtain ⟨_, _, hexpiries, -⟩ := TokenConfig.of_issue_eq_ok hissue
    refine ⟨Option.isSome_of_eq_some hexpiries, row, hfound, hpassword, ?_⟩
    have hrow : (finish m r (.json 200 issued.toJson)).Names row.user.subject :=
      names_of_issue hissue fun kind => (token?_finish asks rfl _ kind).trans (Response.token?_issued 200 issued kind)
    exact hrow.unique hnames
  · rintro ⟨hexpiries, row, hfound, hpassword, rfl⟩
    obtain ⟨⟨access, expiry⟩, hexpiries⟩ := Option.isSome_iff_exists.mp hexpiries
    obtain ⟨issued, after, hissue, -⟩ := TokenConfig.issue_of_expiries hexpiries row.user.subject m.tokens before
    have hlogin : ((inMemory tokens scanLimit hashCost).login m wish before).1 = .ok issued := by
      rw [login_eq, hfound]
      dsimp only
      rw [hpassword]
      dsimp only
      rw [Service.onTokens, Action.mapError_apply, hissue]
      rfl
    rw [Handler.answer_apply, hlogin]
    refine ⟨_, rfl, finish_status m r _, names_of_issue hissue fun kind => ?_⟩
    rw [token?_finish asks rfl]
    exact Response.token?_issued 200 issued kind

/-- Nobody is told more than that the credentials are bad, whether there is no such account or the password is
another. -/
theorem refused_login (h : before.users.findByUsername wish.username = none ∨
      ∃ row, before.users.findByUsername wish.username = some row ∧
        verifyPassword wish.password row.passwordHash = .ok false) :
    ((inMemory tokens scanLimit hashCost).handle m r before).1 =
      some (finish m r Refusal.badCredentials.toResponse) := by
  rw [handle_login asks payload, Handler.answer_apply, login_eq]
  rcases h with hnone | ⟨row, hfound, hpassword⟩
  · rw [hnone]
    rfl
  · rw [hfound]
    dsimp only
    rw [hpassword]
    rfl

end Login

/-! ### A registration -/

/-- A registration that succeeds has passed all of its checks, and has made the account and its tokens. -/
theorem of_register_eq_ok {wish : Registration} {p : Registered} {after : Memory}
    (h : (inMemory tokens scanLimit hashCost).register m wish before = (.ok p, after)) :
    ∃ order hash, wish.tidy = .ok order ∧ before.users.taken order.username order.email = false ∧
      hashPassword hashCost m.salt order.password = .ok hash ∧
      p.user = before.users.account (order.newUser hash) m.now m.userId.render ∧
      tokens.issue Memory.recordAccess p.user.subject m.now m.tokens
        { before with users := before.users.add ⟨p.user, hash⟩ } = (.ok p.tokens, after) := by
  rw [register_eq] at h
  split at h
  · exact absurd (Prod.mk.inj h).1 nofun
  next order htidy =>
  split at h
  · exact absurd (Prod.mk.inj h).1 nofun
  next hfree =>
  split at h
  · exact absurd (Prod.mk.inj h).1 nofun
  next hash hhash =>
  dsimp only at h
  generalize huser : before.users.account (order.newUser hash) m.now m.userId.render = user at h
  obtain ⟨hresult, hafter⟩ := Prod.mk.inj h
  cases hissue : (Service.onTokens (tokens.issue Memory.recordAccess user.subject m.now m.tokens)
      { before with users := before.users.add ⟨user, hash⟩ }).1 with
  | error stop =>
    rw [hissue] at hresult
    exact absurd hresult nofun
  | ok issued =>
    rw [hissue] at hresult
    obtain rfl := Except.ok.inj hresult
    exact ⟨order, hash, htidy, Bool.eq_false_iff.mpr hfree, hhash, huser.symm,
      Service.of_onTokens_eq_ok (Prod.ext hissue hafter)⟩

/-- A registration that can be read is answered as its service ends. -/
theorem handle_register {wish : Registration} (asks : r.Asks (.free .register))
    (payload : RequestReader.payload Registration.shape r = .ok wish) :
    (inMemory tokens scanLimit hashCost).handle m r before =
      (conclude m r
        (Handler.answer Registered.toJson ((inMemory tokens scanLimit hashCost).register m wish) before).1,
        ((inMemory tokens scanLimit hashCost).register m wish before).2) := by
  rw [handle_open asks, answerOpen_register payload, Handler.answer_apply]

/-- **Whoever has registered can log in, but only under the tidied username.** In any state of the stores: after a
registration that is answered by status 200, a login with its password is welcomed as the account that was made
exactly if the username is that of the registration without the blanks around it (and no expiry lies outside the
calendar). Under any other username nobody had before, the credentials are bad. -/
theorem registered_log_in_iff_trimmed (tokens : TokenConfig) (scanLimit hashCost : Nat) (before : Memory)
    (m : Moment) {r : Request} {wish : Registration} {response : Response} (asks : r.Asks (.free .register))
    (payload : RequestReader.payload Registration.shape r = .ok wish) :
    let server := inMemory tokens scanLimit hashCost
    (server.handle m r before).1 = some response → response.status = 200 →
      ∃ p : Registered, response.body = some p.toJson ∧ p.user.username = Text.trim wish.username ∧
        ∀ m' r' username, r'.Asks (.free .login) →
          RequestReader.payload Login.shape r' = .ok ⟨username, wish.password⟩ →
          let answer := (server.handle m' r' (server.handle m r before).2).1
          (Welcomes answer p.user.subject ↔
            username = Text.trim wish.username ∧ (tokens.expiries? m'.now).isSome = true) ∧
          (username ≠ Text.trim wish.username → before.users.findByUsername username = none →
            answer = some (finish m' r' Refusal.badCredentials.toResponse)) := by
  intro server hanswer hok
  rw [handle_register asks payload] at hanswer ⊢
  obtain ⟨p, hresult, rfl⟩ := of_conclude_answer_eq_ok hanswer hok
  obtain ⟨after, hregister⟩ : ∃ after, (inMemory tokens scanLimit hashCost).register m wish before = (.ok p, after) :=
    ⟨_, Prod.ext hresult rfl⟩
  obtain ⟨order, hash, htidy, hfree, hhash, huser, hissue⟩ := of_register_eq_ok hregister
  obtain ⟨rfl, -, -⟩ := Registration.of_tidy_eq_ok htidy
  obtain ⟨_, _, -, -, -, rfl⟩ := TokenConfig.of_issue_eq_ok hissue
  rw [hregister]
  have hname : p.user.username = Text.trim wish.username := by
    rw [huser]
    rfl
  have hverify : verifyPassword wish.password hash = .ok true := verifyPassword_self hhash
  refine ⟨p, finish_body asks rfl _, hname, fun m' r' username asks' payload' => ?_⟩
  dsimp only
  constructor
  · rw [welcomes_iff asks' payload', and_comm]
    refine and_congr_left fun _ => ?_
    dsimp only
    constructor
    · rintro ⟨row, hfound, -, hsubject⟩
      rw [← Directory.username_of_findByUsername hfound, ← hname]
      exact congrArg Subject.username hsubject
    · rintro rfl
      refine ⟨⟨p.user, hash⟩, ?_, hverify, rfl⟩
      rw [Directory.findByUsername_add, Directory.findByUsername_of_free hfree, if_pos hname]
      rfl
  · intro hother hnobody
    refine refused_login asks' payload' (.inl ?_)
    dsimp only
    rw [Directory.findByUsername_add, hnobody, if_neg fun h => hother (h.symm.trans hname)]
    rfl

/-! ### A sample -/

/-- A sample registration with a blank before the username. -/
def sampleBlankRegistration : Request :=
  samplePost "/auth/register" "\x7b\"username\":\" bob\",\"password\":\"correct-horse\",\"name\":\"Bob\"\x7d"

/-- The login with the username as it was registered. -/
def sampleBlankLogin : Request :=
  samplePost "/auth/login" "\x7b\"username\":\" bob\",\"password\":\"correct-horse\"\x7d"

/-- The login without the blank. -/
def sampleTidyLogin : Request :=
  samplePost "/auth/login" "\x7b\"username\":\"bob\",\"password\":\"correct-horse\"\x7d"

theorem payload_sampleBlankRegistration :
    RequestReader.payload Registration.shape sampleBlankRegistration = .ok ⟨" bob", "correct-horse", "Bob", none⟩ :=
  payload_samplePost (by decide) rfl

theorem payload_sampleBlankLogin :
    RequestReader.payload Login.shape sampleBlankLogin = .ok ⟨" bob", "correct-horse"⟩ :=
  payload_samplePost (by decide) rfl

theorem payload_sampleTidyLogin :
    RequestReader.payload Login.shape sampleTidyLogin = .ok ⟨"bob", "correct-horse"⟩ :=
  payload_samplePost (by decide) rfl

theorem isSome_expiries_sample : (sampleConfig.expiries? sampleMoment.now).isSome = true :=
  Option.isSome_of_eq_some (sample_expiries 0 (by decide))

/-- The sample registration is answered by status 200, and makes an account for "bob". -/
theorem sample_blank_registration :
    ∃ response row after, (inMemory sampleConfig 10 4).handle sampleMoment sampleBlankRegistration {} =
        (some response, after) ∧
      response.status = 200 ∧ after.users = ⟨[row]⟩ ∧ row.user.username = "bob" := by
  obtain ⟨hash, hhash⟩ : ∃ hash, hashPassword 4 sampleMoment.salt "correct-horse" = .ok hash := ⟨_, rfl⟩
  obtain ⟨user, issued, after, rfl, hissue, hanswer⟩ := handle_registration {} ⟨rfl, rfl⟩
    payload_sampleBlankRegistration rfl rfl hhash (sample_expiries 0 (by decide)) 10
  obtain ⟨_, _, -, -, -, rfl⟩ := TokenConfig.of_issue_eq_ok hissue
  exact ⟨_, _, _, hanswer, rfl, rfl, rfl⟩

/-- After the sample registration, the login without the blank is welcomed, and the one with it is not. -/
theorem sample_log_in_trimmed :
    let server := inMemory sampleConfig 10 4
    ∃ response p, (server.handle sampleMoment sampleBlankRegistration {}).1 = some response ∧
      response.status = 200 ∧ response.body = some (Registered.toJson p) ∧
      let after := (server.handle sampleMoment sampleBlankRegistration {}).2
      Welcomes (server.handle sampleMoment sampleTidyLogin after).1 p.user.subject ∧
        ¬ Welcomes (server.handle sampleMoment sampleBlankLogin after).1 p.user.subject := by
  intro server
  obtain ⟨response, _, _, hhandle, hok, -⟩ := sample_blank_registration
  have hanswer : (server.handle sampleMoment sampleBlankRegistration {}).1 = some response :=
    congrArg Prod.fst hhandle
  obtain ⟨p, hbody, -, hlogin⟩ := registered_log_in_iff_trimmed sampleConfig 10 4 {} sampleMoment ⟨rfl, rfl⟩
    payload_sampleBlankRegistration hanswer hok
  refine ⟨response, p, hanswer, hok, hbody, ?_, fun hwelcome => ?_⟩
  · exact (hlogin sampleMoment sampleTidyLogin "bob" ⟨rfl, rfl⟩ payload_sampleTidyLogin).1.mpr
      ⟨rfl, isSome_expiries_sample⟩
  · have hblank := (hlogin sampleMoment sampleBlankLogin " bob" ⟨rfl, rfl⟩ payload_sampleBlankLogin).1
    exact absurd (hblank.mp hwelcome).1 (by decide)

/-- Whoever registers as " bob" cannot log in as " bob". -/
theorem registered_with_blank_cannot_log_in :
    let server := inMemory sampleConfig 10 4
    ∃ registered refused after,
      server.handle sampleMoment sampleBlankRegistration {} = (some registered, after) ∧ registered.status = 200 ∧
      (server.handle sampleMoment sampleBlankLogin after).1 = some refused ∧ refused.status = 401 := by
  intro server
  obtain ⟨response, row, after, hhandle, hok, husers, hname⟩ := sample_blank_registration
  have hnobody : after.users.findByUsername " bob" = none := by
    rw [husers, Directory.findByUsername, List.find?_singleton, hname]
    rfl
  exact ⟨response, _, after, hhandle, hok, refused_login ⟨rfl, rfl⟩ payload_sampleBlankLogin (.inl hnobody),
    finish_status sampleMoment sampleBlankLogin _⟩

end Server

end Gatehouse

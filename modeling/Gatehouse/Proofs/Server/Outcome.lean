import Gatehouse.Proofs.Server.Answers

/-!
# What a request can do

A server over the stores in memory does one of nine things with a request (`Server.Outcome`): it leaves the
stores as they are and hands out no token, or one of its writing services has passed all of its checks.
Whoever wants to know what requests change, or which tokens they are answered with, splits on these nine and
never looks at the handlers (`Server.handle_outcome`).
-/

namespace Gatehouse

open Http (Headers Request Response)

namespace Server

/-- **What a server over the stores in memory does with a request**, with the answer and the stores after
it. -/
inductive Outcome (tokens : TokenConfig) (hashCost : Nat) (m : Moment) (r : Request) (before : Memory) :
    Option Response → Memory → Prop where
  /-- Nothing is written, and no token is handed out. -/
  | unchanged {answer : Option Response} (h : ∀ response ∈ answer, response.TokenFree) :
      Outcome tokens hashCost m r before answer before
  /-- An account is made, and its first pair of tokens. -/
  | registered {wish order : Registration} {hash : String} {user : User} {issued : IssuedTokens}
      {after : Memory} (asks : r.Asks (.free .register))
      (payload : RequestReader.payload Registration.shape r = .ok wish) (tidy : wish.tidy = .ok order)
      (free : before.users.taken order.username order.email = false)
      (hashed : hashPassword hashCost m.salt order.password = .ok hash)
      (made : user = before.users.account (order.newUser hash) m.now m.userId.render)
      (issue : tokens.issue Memory.recordAccess user.subject m.now m.tokens
        { before with users := before.users.add ⟨user, hash⟩ } = (.ok issued, after)) :
      Outcome tokens hashCost m r before
        (some (finish m r (.json 200 (Registered.toJson ⟨user, issued⟩)))) after
  /-- An account is made, but no tokens for it, because an expiry lies outside the calendar. -/
  | stranded {wish order : Registration} {hash : String} {user : User} (asks : r.Asks (.free .register))
      (payload : RequestReader.payload Registration.shape r = .ok wish) (tidy : wish.tidy = .ok order)
      (free : before.users.taken order.username order.email = false)
      (hashed : hashPassword hashCost m.salt order.password = .ok hash)
      (made : user = before.users.account (order.newUser hash) m.now m.userId.render)
      (overflow : tokens.expiries? m.now = none) :
      Outcome tokens hashCost m r before none { before with users := before.users.add ⟨user, hash⟩ }
  /-- A pair of tokens is made for an account whose password was given. -/
  | loggedIn {wish : Login} {row : StoredUser} {issued : IssuedTokens} {after : Memory}
      (asks : r.Asks (.free .login)) (payload : RequestReader.payload Login.shape r = .ok wish)
      (found : before.users.findByUsername wish.username = some row)
      (password : verifyPassword wish.password row.passwordHash = .ok true)
      (issue : tokens.issue Memory.recordAccess row.user.subject m.now m.tokens before =
        (.ok issued, after)) :
      Outcome tokens hashCost m r before (some (finish m r (.json 200 issued.toJson))) after
  /-- An access token is made for the subject of a refresh token, whose record is extended. -/
  | refreshed {wish : TokenPair} {issued : IssuedTokens} {after : Memory}
      (asks : r.Asks (.free .refresh)) (payload : RequestReader.payload TokenPair.shape r = .ok wish)
      (refresh : tokens.refresh Memory.recordAccess wish.access wish.refresh m.now m.tokens.accessId before =
        (.ok issued, after)) :
      Outcome tokens hashCost m r before (some (finish m r (.json 200 issued.toJson))) after
  /-- The caller's record is deleted. -/
  | loggedOut {caller : Claims} (asks : r.Asks (.guarded .logout)) (bears : Bears tokens m r caller) :
      Outcome tokens hashCost m r before
        (some (finish m r (.json 200 (truth "deleted" (before.records.find caller.sub).isSome))))
        { before with records := (before.records.delete caller.sub).2 }
  /-- A subject's record is deleted, by the subject or by an admin. -/
  | revoked {caller : Claims} {subject : String} (asks : r.Asks (.guarded .revoke))
      (bears : Bears tokens m r caller)
      (payload : RequestReader.payload (textShape "subject") r = .ok subject)
      (allowed : caller.sub = subject ∨ caller.isAdmin = true) :
      Outcome tokens hashCost m r before
        (some (finish m r (.json 200 (truth "deleted" (before.records.find subject).isSome))))
        { before with records := (before.records.delete subject).2 }
  /-- The caller's profile is replaced. -/
  | profileChanged {caller : Claims} {wish : ProfileWish} {update : ProfileUpdate} {user : User}
      {users : Directory} (asks : r.Asks (.guarded .ownProfile)) (bears : Bears tokens m r caller)
      (payload : RequestReader.payload ProfileWish.shape r = .ok wish) (tidy : wish.tidy = .ok update)
      (updated : before.users.updateProfile caller.sub update m.now = (.updated user, users)) :
      Outcome tokens hashCost m r before (some (finish m r (.json 200 user.toJson))) { before with users }
  /-- The caller's password is replaced, the old one having been given. -/
  | passwordChanged {caller : Claims} {change : PasswordChange} {row : StoredUser} {hash : String}
      (asks : r.Asks (.guarded .ownPassword)) (bears : Bears tokens m r caller)
      (payload : RequestReader.payload PasswordChange.shape r = .ok change)
      (found : before.users.findById caller.sub = some row) (checked : checkChange change = .ok ())
      (password : verifyPassword change.old row.passwordHash = .ok true)
      (hashed : hashPassword hashCost m.salt change.new = .ok hash) :
      Outcome tokens hashCost m r before
        (some (finish m r (.json 200 ({ row.user with updatedAt := m.now } : User).toJson)))
        { before with users := (before.users.setPasswordHash caller.sub hash m.now).2 }

variable {tokens : TokenConfig} {scanLimit hashCost : Nat} {m : Moment} {r : Request} {before : Memory}

namespace Outcome

/-- An answer without a token, and nothing written. -/
theorem replied {response : Response} (h : response.TokenFree) :
    Outcome tokens hashCost m r before (some (finish m r response)) before :=
  .unchanged fun _ hanswer => Option.mem_some_iff.mp hanswer ▸ h.finish

theorem refused (e : Refusal) :
    Outcome tokens hashCost m r before (some (finish m r e.toResponse)) before :=
  replied (Response.tokenFree_refusal e)

end Outcome

/-- A handler does one of the things that are done with requests. -/
def Does (tokens : TokenConfig) (hashCost : Nat) (m : Moment) (r : Request) (before : Memory)
    (act : Handler Memory Response) : Prop :=
  Outcome tokens hashCost m r before (conclude m r (act before).1) (act before).2

namespace Does

variable {α : Type}

/-- What the request must have is read first. -/
theorem need {x : Except Response α} {f : α → Handler Memory Response}
    (hx : ∀ response, x = .error response → RequestReader.Unreadable response)
    (hf : ∀ a, x = .ok a → Does tokens hashCost m r before (f a)) :
    Does tokens hashCost m r before (Handler.need x >>= f) := by
  rw [Does, Handler.need_bind_apply]
  cases x with
  | ok a => exact hf a rfl
  | error response => exact .replied (hx response rfl).tokenFree

/-- Only an admin gets on. -/
theorem requireAdmin {caller : Claims} {f : Unit → Handler Memory Response}
    (hf : Does tokens hashCost m r before (f ())) :
    Does tokens hashCost m r before (Handler.ofService (Service.requireAdmin caller) >>= f) := by
  rw [Service.requireAdmin]
  cases caller.isAdmin with
  | true => exact hf
  | false => exact .refused .adminRequired

/-- A service that writes nothing, and whose result holds no token. -/
theorem look {act : Service Memory α} {toJson : α → Json} (hact : (act before).2 = before)
    (htoken : ∀ a, (Response.json 200 (toJson a)).TokenFree) :
    Does tokens hashCost m r before (Handler.answer toJson act) := by
  rw [Does, Handler.answer_apply, hact]
  rcases (act before).1 with (e | _) | a
  · exact .refused e
  · exact .unchanged nofun
  · exact .replied (htoken a)

end Does

/-! ### Route by route -/

theorem does_register (asks : r.Asks (.free .register)) :
    Does tokens hashCost m r before ((inMemory tokens scanLimit hashCost).answerOpen m r .register) := by
  refine .need (fun _ => RequestReader.unreadable_of_payload_eq_error) fun wish hpayload => ?_
  rw [Does, Handler.answer_apply, register_eq]
  cases htidy : wish.tidy with
  | error e => exact .refused e
  | ok order =>
    dsimp only
    cases htaken : before.users.taken order.username order.email with
    | true => exact .refused _
    | false =>
      rw [if_neg Bool.false_ne_true]
      cases hhash : hashPassword hashCost m.salt order.password with
      | error e => exact .refused _
      | ok hash =>
        dsimp only
        rw [Service.onTokens, Action.mapError_apply]
        generalize huser : before.users.account (order.newUser hash) m.now m.userId.render = user
        cases hissue : tokens.issue Memory.recordAccess user.subject m.now m.tokens
            { before with users := before.users.add ⟨user, hash⟩ } with
        | mk result after =>
          cases result with
          | ok issued => exact .registered asks hpayload htidy htaken hhash huser.symm hissue
          | error stop =>
            obtain ⟨rfl, hnone⟩ := TokenConfig.overflow_of_issue_eq_error hissue
            obtain rfl := TokenConfig.of_issue_eq_error hissue
            exact .stranded asks hpayload htidy htaken hhash huser.symm hnone

theorem does_login (asks : r.Asks (.free .login)) :
    Does tokens hashCost m r before ((inMemory tokens scanLimit hashCost).answerOpen m r .login) := by
  refine .need (fun _ => RequestReader.unreadable_of_payload_eq_error) fun wish hpayload => ?_
  rw [Does, Handler.answer_apply, login_eq]
  cases hfound : before.users.findByUsername wish.username with
  | none => exact .refused _
  | some row =>
    dsimp only
    cases hpassword : verifyPassword wish.password row.passwordHash with
    | error e => exact .refused _
    | ok verified =>
      cases verified with
      | false => exact .refused _
      | true =>
        dsimp only
        rw [Service.onTokens, Action.mapError_apply]
        cases hissue : tokens.issue Memory.recordAccess row.user.subject m.now m.tokens before with
        | mk result after =>
          cases result with
          | ok issued => exact .loggedIn asks hpayload hfound hpassword hissue
          | error stop =>
            obtain ⟨rfl, -⟩ := TokenConfig.overflow_of_issue_eq_error hissue
            obtain rfl := TokenConfig.of_issue_eq_error hissue
            exact .unchanged nofun

theorem does_refresh (asks : r.Asks (.free .refresh)) :
    Does tokens hashCost m r before ((inMemory tokens scanLimit hashCost).answerOpen m r .refresh) := by
  refine .need (fun _ => RequestReader.unreadable_of_payload_eq_error) fun wish hpayload => ?_
  rw [Does, Handler.answer_apply, refresh, Service.onTokens, Action.mapError_apply]
  change Outcome tokens hashCost m r before (conclude m r (Except.map _ (Except.mapError _ (Except.mapError _
    (tokens.refresh Memory.recordAccess wish.access wish.refresh m.now m.tokens.accessId before).1))))
    (tokens.refresh Memory.recordAccess wish.access wish.refresh m.now m.tokens.accessId before).2
  cases hrefresh : tokens.refresh Memory.recordAccess wish.access wish.refresh m.now m.tokens.accessId before with
  | mk result after =>
    cases result with
    | ok issued => exact .refreshed asks hpayload hrefresh
    | error stop =>
      obtain rfl := TokenConfig.of_refresh_eq_error hrefresh
      cases stop with
      | error e => exact .refused _
      | overflow => exact .unchanged nofun

theorem does_answerOpen {route : OpenRoute} (asks : r.Asks (.free route)) :
    Does tokens hashCost m r before ((inMemory tokens scanLimit hashCost).answerOpen m r route) := by
  cases route with
  | health =>
    refine .replied (Response.tokenFree_object _ fun kind => ?_)
    cases kind <;> simp [TokenKind.field]
  | register => exact does_register asks
  | login => exact does_login asks
  | refresh => exact does_refresh asks

theorem does_revoke {caller : Claims} (asks : r.Asks (.guarded .revoke)) (bears : Bears tokens m r caller) :
    Does tokens hashCost m r before ((inMemory tokens scanLimit hashCost).answerGuarded m r caller .revoke) := by
  refine .need (fun _ => RequestReader.unreadable_of_payload_eq_error) fun subject hpayload => ?_
  rw [Does, Handler.answer_apply, revoke_eq]
  by_cases hallowed : caller.sub = subject ∨ caller.isAdmin = true
  · rw [if_pos hallowed]
    exact .revoked asks bears hpayload hallowed
  · rw [if_neg hallowed]
    exact .refused _

theorem does_ownProfile {caller : Claims} (asks : r.Asks (.guarded .ownProfile))
    (bears : Bears tokens m r caller) :
    Does tokens hashCost m r before
      ((inMemory tokens scanLimit hashCost).answerGuarded m r caller .ownProfile) := by
  refine .need (fun _ => RequestReader.unreadable_of_payload_eq_error) fun wish hpayload => ?_
  rw [Does, Handler.answer_apply, updateProfile_eq]
  cases htidy : wish.tidy with
  | error e => exact .refused e
  | ok update =>
    dsimp only
    cases hupdated : before.users.updateProfile caller.sub update m.now with
    | mk outcome users =>
      cases outcome with
      | updated user => exact .profileChanged asks bears hpayload htidy hupdated
      | missing => exact .refused _
      | emailTaken => exact .refused _

theorem does_ownPassword {caller : Claims} (asks : r.Asks (.guarded .ownPassword))
    (bears : Bears tokens m r caller) :
    Does tokens hashCost m r before
      ((inMemory tokens scanLimit hashCost).answerGuarded m r caller .ownPassword) := by
  refine .need (fun _ => RequestReader.unreadable_of_payload_eq_error) fun change hpayload => ?_
  rw [Does, Handler.answer_apply, changePassword_eq]
  cases hfound : before.users.findById caller.sub with
  | none => exact .refused _
  | some row =>
    dsimp only
    cases hchecked : checkChange change with
    | error e => exact .refused e
    | ok _ =>
      dsimp only
      cases hpassword : verifyPassword change.old row.passwordHash with
      | error e => exact .refused _
      | ok verified =>
        cases verified with
        | false => exact .refused _
        | true =>
          dsimp only
          cases hhash : hashPassword hashCost m.salt change.new with
          | error e => exact .refused _
          | ok hash => exact .passwordChanged asks bears hpayload hfound hchecked hpassword hhash

theorem does_getUser (id : String) :
    Does tokens hashCost m r before
      (Handler.answer User.toJson ((inMemory tokens scanLimit hashCost).getUser id)) := by
  refine .look ?_ (Response.tokenFree_user 200)
  rw [getUser_eq]
  cases before.users.findById id with
  | none => rfl
  | some row => rfl

theorem does_answerGuarded {caller : Claims} {route : GuardedRoute} (asks : r.Asks (.guarded route))
    (bears : Bears tokens m r caller) :
    Does tokens hashCost m r before ((inMemory tokens scanLimit hashCost).answerGuarded m r caller route) := by
  cases route with
  | verify =>
    refine .need (fun _ => RequestReader.unreadable_of_payload_eq_error) fun token _ => .requireAdmin (.look ?_ ?_)
    · rw [verify_eq]
    · exact fun b => Response.tokenFree_truth 200 b fun kind => by cases kind <;> simp [TokenKind.field]
  | revoke => exact does_revoke asks bears
  | logout =>
    rw [Does, answerGuarded, Handler.answer_apply, logout_eq]
    exact .loggedOut asks bears
  | claims =>
    refine .replied (Response.tokenFree_object _ fun kind => ?_)
    cases kind <;> simp [TokenKind.field]
  | users =>
    refine .need (fun _ => RequestReader.unreadable_of_query_eq_error) fun text _ => .requireAdmin (.look ?_ ?_)
    · rw [listUsers_eq]
      cases text.read with
      | error _ => rfl
      | ok q => rfl
    · exact Response.tokenFree_array 200
  | ownAccount => exact does_getUser caller.sub
  | ownProfile => exact does_ownProfile asks bears
  | ownPassword => exact does_ownPassword asks bears
  | account id =>
    exact .need (fun _ => RequestReader.unreadable_of_accountId_eq_error) fun id _ => .requireAdmin (does_getUser id)

/-- Every route does one of the things that are done with requests. -/
theorem does_route : Does tokens hashCost m r before ((inMemory tokens scanLimit hashCost).route m r) := by
  have hauthenticated {f : Claims → Handler Memory Response}
      (hf : ∀ caller, Bears tokens m r caller → Does tokens hashCost m r before (f caller)) :
      Does tokens hashCost m r before
        (Handler.ofService (Service.ofExcept ((inMemory tokens scanLimit hashCost).authenticate m r)) >>= f) := by
    rw [Does, Handler.ofService_ofExcept_bind_apply]
    cases hcaller : (inMemory tokens scanLimit hashCost).authenticate m r with
    | error e => exact .refused e
    | ok caller =>
      have hbears := authenticate_eq_ok_iff.mp hcaller
      rw [inMemory_tokens] at hbears
      exact hf caller hbears
  unfold route
  split
  next route hpath =>
    by_cases hserves : route.verb.serves r.method = true
    · rw [if_pos hserves]
      exact does_answerOpen ⟨hpath, hserves⟩
    · rw [if_neg hserves]
      exact .replied (Response.tokenFree_empty 405)
  next route hpath =>
    refine hauthenticated fun caller hbears => ?_
    by_cases hserves : route.verb.serves r.method = true
    · rw [if_pos hserves]
      exact does_answerGuarded ⟨hpath, hserves⟩ hbears
    · rw [if_neg hserves]
      exact .replied (Response.tokenFree_empty 405)
  next => exact hauthenticated fun _ _ => .replied (Response.tokenFree_empty 404)

/-- **A server over the stores in memory does one of nine things with a request.** -/
theorem handle_outcome (tokens : TokenConfig) (scanLimit hashCost : Nat) (m : Moment) (r : Request)
    (before : Memory) :
    Outcome tokens hashCost m r before ((inMemory tokens scanLimit hashCost).handle m r before).1
      ((inMemory tokens scanLimit hashCost).handle m r before).2 := by
  by_cases hoptions : r.method = "OPTIONS"
  · rw [handle_options _ m hoptions]
    exact .unchanged fun _ h => Option.mem_some_iff.mp h ▸ Response.tokenFree_of_body_eq_none rfl
  · rw [handle_apply _ m hoptions]
    exact does_route

/-! ### A registration -/

/-- A registration that can be read is handed to the service. -/
theorem answerOpen_register {wish : Registration} (payload : RequestReader.payload Registration.shape r = .ok wish) :
    (inMemory tokens scanLimit hashCost).answerOpen m r .register before =
      Handler.answer Registered.toJson ((inMemory tokens scanLimit hashCost).register m wish) before := by
  rw [answerOpen, Handler.need_bind_apply, payload]

/-- A registration that passes all of its checks is answered with the account and its tokens. -/
theorem handle_registration (before : Memory) {wish order : Registration} {hash : String}
    {access expiry : Instant} (asks : r.Asks (.free .register))
    (payload : RequestReader.payload Registration.shape r = .ok wish)
    (tidy : wish.tidy = .ok order) (free : before.users.taken order.username order.email = false)
    (hashed : hashPassword hashCost m.salt order.password = .ok hash)
    (expiries : tokens.expiries? m.now = some (access, expiry)) (scanLimit : Nat) :
    ∃ user issued after, user = before.users.account (order.newUser hash) m.now m.userId.render ∧
      tokens.issue Memory.recordAccess user.subject m.now m.tokens
        { before with users := before.users.add ⟨user, hash⟩ } = (.ok issued, after) ∧
      (inMemory tokens scanLimit hashCost).handle m r before =
        (some (finish m r (.json 200 (Registered.toJson ⟨user, issued⟩))), after) := by
  generalize huser : before.users.account (order.newUser hash) m.now m.userId.render = user
  obtain ⟨issued, after, hissue, -⟩ := TokenConfig.issue_of_expiries expiries user.subject m.tokens
    { before with users := before.users.add ⟨user, hash⟩ }
  refine ⟨user, issued, after, rfl, hissue, ?_⟩
  have hanswer : (inMemory tokens scanLimit hashCost).answerOpen m r .register before =
      (.ok (.json 200 (Registered.toJson ⟨user, issued⟩)), after) := by
    rw [answerOpen_register payload, Handler.answer_apply, register_eq, tidy]
    dsimp only
    rw [free, if_neg Bool.false_ne_true, hashed]
    dsimp only
    rw [huser, Service.onTokens, Action.mapError_apply, hissue]
    rfl
  rw [handle_open asks, hanswer]
  rfl

/-- What is drawn and what time it is when a sample request comes in. -/
def sampleMoment : Moment := ⟨⟨0, 0⟩, ⟨5⟩, ⟨6⟩, Crypto.Bcrypt.Salt.ofNat 7, sampleDraws⟩

/-- A sample registration. -/
def sampleRegistration : Request where
  method := "POST"
  path := "/auth/register"
  headers := [⟨"content-type", "application/json"⟩]
  body := Utf8.encode
    "\x7b\"username\":\"bob\",\"password\":\"correct-horse\",\"name\":\"Bob\"\x7d"

theorem sample_payload : RequestReader.payload Registration.shape sampleRegistration =
    .ok ⟨"bob", "correct-horse", "Bob", none⟩ := by
  have htype : sampleRegistration.headers.first? "content-type" = some "application/json" :=
    Headers.first?_cons_self ..
  have hsize : sampleRegistration.body.length ≤ RequestReader.maxBodySize := by decide
  exact RequestReader.payload_of_first? htype hsize rfl

/-- The account that the sample registration makes on empty stores. -/
def sampleUser : User := ⟨sampleMoment.userId.render, "bob", "Bob", none, adminRole, ⟨0, 0⟩, ⟨0, 0⟩⟩

/-- The sample registration is answered on empty stores. -/
theorem sample_registration :
    ∃ issued hash after,
      sampleConfig.issue Memory.recordAccess sampleUser.subject ⟨0, 0⟩ sampleDraws
        { users := ⟨[⟨sampleUser, hash⟩]⟩ } = (.ok issued, after) ∧
      (inMemory sampleConfig 10 4).handle sampleMoment sampleRegistration {} =
        (some (finish sampleMoment sampleRegistration (.json 200 (Registered.toJson ⟨sampleUser, issued⟩))),
          after) := by
  obtain ⟨hash, hhash⟩ : ∃ hash, hashPassword 4 sampleMoment.salt "correct-horse" = .ok hash := ⟨_, rfl⟩
  obtain ⟨user, issued, after, rfl, hissue, hanswer⟩ := handle_registration {} ⟨rfl, rfl⟩ sample_payload
    rfl rfl hhash (sample_expiries 0 (by decide)) 10
  exact ⟨issued, hash, after, hissue, hanswer⟩

end Server

end Gatehouse

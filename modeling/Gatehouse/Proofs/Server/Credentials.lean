import Gatehouse.Proofs.Crypto.Bcrypt
import Gatehouse.Proofs.Server.Refusals
import Gatehouse.Proofs.Server.TokenSubjects

/-!
# Credentials are refused alike

A login and a refresh present credentials. Whoever is not entitled to tokens by them is refused in one way,
whichever check it was that failed (`Server.credentials_are_refused_alike`).

The checks themselves come down to one refusal, but between them hashes and records are read, and what cannot
be read would be a fault inside and be answered as one. So it matters what the stores can hold: of whatever was
asked before, the accounts have hashes that were made (`Directory.Hashed`), and the records open
(`Server.NamesAccounts`). And since a request is handled in one breath, a record still has the version that was
read when it is extended.
-/

namespace Gatehouse

open Http (Headers Request Response)

/-! ### Hashes that can be used -/

/-- A password was hashed if its hash was made of it. -/
theorem hashPassword_eq_ok_iff {cost : Nat} {salt : Crypto.Bcrypt.Salt} {password hash : String} :
    hashPassword cost salt password = .ok hash ↔ Crypto.Bcrypt.hash cost salt password = .ok hash := by
  rw [hashPassword]
  cases Crypto.Bcrypt.hash cost salt password with
  | error e => exact ⟨nofun, nofun⟩
  | ok hash' =>
    change Except.ok hash' = Except.ok hash ↔ _
    simp

/-- A password is compared with a hash that was made by the two digests. -/
theorem verifyPassword_of_hashPassword {cost : Nat} {salt : Crypto.Bcrypt.Salt} {password hash : String}
    (h : hashPassword cost salt password = .ok hash) (candidate : String) :
    verifyPassword candidate hash = .ok (decide
      (Crypto.Bcrypt.digest cost salt.bytes candidate = Crypto.Bcrypt.digest cost salt.bytes password)) := by
  rw [verifyPassword, Crypto.Bcrypt.verify_of_hash_eq_ok (hashPassword_eq_ok_iff.mp h)]
  rfl

/-- The password that was hashed has the hash. -/
theorem verifyPassword_self {cost : Nat} {salt : Crypto.Bcrypt.Salt} {password hash : String}
    (h : hashPassword cost salt password = .ok hash) : verifyPassword password hash = .ok true := by
  rw [verifyPassword_of_hashPassword h, decide_eq_true rfl]

/-- With a hash that was made every password can be compared. -/
theorem exists_verifyPassword_eq_ok {cost : Nat} {salt : Crypto.Bcrypt.Salt} {password hash : String}
    (h : hashPassword cost salt password = .ok hash) (candidate : String) :
    ∃ same, verifyPassword candidate hash = .ok same :=
  ⟨_, verifyPassword_of_hashPassword h candidate⟩

namespace Directory

/-- All accounts have hashes that were made. -/
def Hashed (cost : Nat) (d : Directory) : Prop :=
  ∀ row ∈ d.users, ∃ salt password, hashPassword cost salt password = .ok row.passwordHash

variable {cost : Nat} {d : Directory}

theorem Hashed.add (h : d.Hashed cost) {row : StoredUser} {salt : Crypto.Bcrypt.Salt} {password : String}
    (hrow : hashPassword cost salt password = .ok row.passwordHash) : (d.add row).Hashed cost := by
  intro other hother
  rcases List.mem_append.mp hother with hother | hother
  · exact h other hother
  · obtain rfl := List.mem_singleton.mp hother
    exact ⟨salt, password, hrow⟩

theorem Hashed.set (h : d.Hashed cost) (i : Nat) {row : StoredUser} {salt : Crypto.Bcrypt.Salt}
    {password : String} (hrow : hashPassword cost salt password = .ok row.passwordHash) :
    Hashed cost ⟨d.users.set i row⟩ := by
  intro other hother
  rcases List.mem_or_eq_of_mem_set hother with hother | rfl
  · exact h other hother
  · exact ⟨salt, password, hrow⟩

end Directory

/-! ### How a refresh ends -/

namespace TokenConfig

variable {c : TokenConfig} {access token : String} {now : Instant} {accessId : Uuid} {mem : Memory}

/-- Tokens that do not pass the first checks are not authentic. -/
theorem authentication_of_checkTokens_eq_error {e : AuthError} (h : c.checkTokens access token now = .error e) :
    ∃ failure, e = .authentication failure := by
  rw [checkTokens] at h
  cases haccess : c.verify access .access false now with
  | error failure =>
    rw [haccess] at h
    exact ⟨failure, (Except.error.inj h).symm⟩
  | ok a =>
    cases hrefresh : c.verify token .refresh true now with
    | error failure =>
      rw [haccess, hrefresh] at h
      exact ⟨failure, (Except.error.inj h).symm⟩
    | ok k =>
      rw [haccess, hrefresh] at h
      change Except.ok (a, k) = Except.error e at h
      exact absurd h (by simp)

/-- Tokens that do not pass the checks of a record that opens are not authentic. -/
theorem authentication_of_checkRecord_eq_error {a k : Claims} {found : Option TokenRecord} {e : AuthError}
    (hopens : ∀ record, found = some record → ∃ stored, c.storedToken record = .ok stored)
    (h : c.checkRecord a k token found now = .error e) : ∃ failure, e = .authentication failure := by
  cases found with
  | none => exact ⟨.recordMissing, (Except.error.inj h).symm⟩
  | some record =>
    obtain ⟨stored, hstored⟩ := hopens record rfl
    rw [checkRecord] at h
    split at h
    · exact ⟨.subjectMismatch, (Except.error.inj h).symm⟩
    rw [hstored] at h
    simp only [bind, Except.bind] at h
    split at h
    · exact ⟨.superseded, (Except.error.inj h).symm⟩
    split at h
    · exact ⟨.recordExpired, (Except.error.inj h).symm⟩
    · exact absurd h (by simp [pure, Except.pure])

/-- **A refresh that is not accepted fails because it is not authentic**, as long as all records open. -/
theorem refresh_of_not_accepts
    (hopens : ∀ key record, mem.records.find key = some record → ∃ stored, c.storedToken record = .ok stored)
    (hnot : ¬ ∃ a k record, c.Accepts access token now mem a k record) :
    ∃ failure, c.refresh Memory.recordAccess access token now accessId mem =
      (.error (.error (.authentication failure)), mem) := by
  cases htokens : c.checkTokens access token now with
  | error e =>
    obtain ⟨failure, rfl⟩ := authentication_of_checkTokens_eq_error htokens
    exact ⟨failure, refresh_of_checkTokens_eq_error htokens⟩
  | ok claims =>
    obtain ⟨a, k⟩ := claims
    cases hrecord : c.checkRecord a k token (mem.records.find k.sub) now with
    | error e =>
      obtain ⟨failure, rfl⟩ := authentication_of_checkRecord_eq_error (hopens k.sub) hrecord
      refine ⟨failure, ?_⟩
      rw [refresh_eq, htokens]
      dsimp only
      rw [hrecord]
    | ok record =>
      obtain ⟨haccess, hrefresh⟩ := c.checkTokens_eq_ok_iff.mp htokens
      obtain ⟨hfound, haccessSubject, hrefreshSubject, hstored, halive⟩ := c.checkRecord_eq_ok_iff.mp hrecord
      exact absurd ⟨a, k, record, haccess, hrefresh, hfound, haccessSubject, hrefreshSubject, hstored, halive⟩ hnot

end TokenConfig

namespace Server

variable {tokens : TokenConfig} {scanLimit hashCost : Nat} {m : Moment} {r : Request} {before after : Memory}
  {answer : Option Response}

/-! ### What the stores can hold -/

/-- A request leaves every account with a hash that was made. -/
theorem Outcome.hashed (h : Outcome tokens hashCost m r before answer after)
    (hbefore : before.users.Hashed hashCost) : after.users.Hashed hashCost := by
  have hstep := h.accountStep
  generalize after.users = users at hstep ⊢
  cases hstep with
  | kept => exact hbefore
  | made _ _ _ _ hashed => exact hbefore.add hashed
  | replaced _ _ _ _ _ _ found =>
    obtain ⟨salt, password, hrow⟩ := hbefore _ (List.mem_of_getElem? found)
    exact hbefore.set _ hrow
  | rehashed _ _ _ _ _ _ hashed => exact hbefore.set _ hashed

/-- Whatever is asked, every account has a hash that was made. -/
theorem hashed_run {start : Memory} (h : start.users.Hashed hashCost) (requests : List (Moment × Request)) :
    ((inMemory tokens scanLimit hashCost).run start requests).users.Hashed hashCost :=
  run_invariant (P := fun state : Memory => state.users.Hashed hashCost)
    (fun m r before => (handle_outcome tokens scanLimit hashCost m r before).hashed) h requests

/-! ### Who is entitled to tokens -/

/-- A request presents credentials: a password or a pair of tokens. -/
inductive PresentsCredentials (r : Request) : Prop where
  | login {wish : Login} (asks : r.Asks (.free .login))
      (payload : RequestReader.payload Login.shape r = .ok wish)
  | refresh {wish : TokenPair} (asks : r.Asks (.free .refresh))
      (payload : RequestReader.payload TokenPair.shape r = .ok wish)

/-- The credentials are in order: the password is that of the account, or both tokens pass all checks. -/
inductive Entitled (tokens : TokenConfig) (m : Moment) (r : Request) (mem : Memory) : Prop where
  | login {wish : Login} {row : StoredUser} (asks : r.Asks (.free .login))
      (payload : RequestReader.payload Login.shape r = .ok wish)
      (found : mem.users.findByUsername wish.username = some row)
      (password : verifyPassword wish.password row.passwordHash = .ok true)
  | refresh {wish : TokenPair} {a k : Claims} {record : TokenRecord} (asks : r.Asks (.free .refresh))
      (payload : RequestReader.payload TokenPair.shape r = .ok wish)
      (accepts : tokens.Accepts wish.access wish.refresh m.now mem a k record)

/-- A service yields a result for whoever is entitled to it, and refuses all others their credentials. -/
structure Judges {α : Type} (entitled : Prop) (result : Except (Stop Refusal) α) : Prop where
  granted : entitled → ∃ a, result = .ok a
  refused : ¬ entitled → result = .error (.error .badCredentials)

/-- A login goes by the password of the account. -/
theorem judges_login (hexpiries : (tokens.expiries? m.now).isSome = true) (hhashed : before.users.Hashed hashCost)
    (wish : Login) :
    Judges (∃ row, before.users.findByUsername wish.username = some row ∧
        verifyPassword wish.password row.passwordHash = .ok true)
      ((inMemory tokens scanLimit hashCost).login m wish before).1 := by
  rw [login_eq]
  cases hfound : before.users.findByUsername wish.username with
  | none =>
    refine ⟨?_, fun _ => rfl⟩
    rintro ⟨row, hrow, -⟩
    exact absurd hrow nofun
  | some row =>
    obtain ⟨salt, password, hhash⟩ := hhashed row (List.mem_of_find?_eq_some hfound)
    obtain ⟨same, hsame⟩ := exists_verifyPassword_eq_ok hhash wish.password
    dsimp only
    rw [hsame]
    cases same with
    | false =>
      refine ⟨?_, fun _ => rfl⟩
      rintro ⟨row', hrow', hpassword⟩
      obtain rfl := Option.some.inj hrow'
      exact absurd (hsame.symm.trans hpassword) (by simp)
    | true =>
      obtain ⟨⟨access, expiry⟩, hexpiries⟩ := Option.isSome_iff_exists.mp hexpiries
      obtain ⟨issued, after, hissue, -⟩ :=
        TokenConfig.issue_of_expiries hexpiries row.user.subject m.tokens before
      refine ⟨fun _ => ⟨issued, ?_⟩, fun hnot => absurd ⟨row, rfl, hsame⟩ hnot⟩
      dsimp only
      rw [Service.onTokens, Action.mapError_apply, hissue]
      rfl

/-- A refresh goes by the two tokens and the record. -/
theorem judges_refresh (hexpiries : (tokens.expiries? m.now).isSome = true)
    (hnames : NamesAccounts tokens before) (wish : TokenPair) :
    Judges (∃ a k record, tokens.Accepts wish.access wish.refresh m.now before a k record)
      ((inMemory tokens scanLimit hashCost).refresh m wish before).1 := by
  have happly : ((inMemory tokens scanLimit hashCost).refresh m wish before).1 =
      (tokens.refresh Memory.recordAccess wish.access wish.refresh m.now m.tokens.accessId before).1.mapError
        (Stop.mapError Refusal.ofAuthError) := rfl
  rw [happly]
  constructor
  · rintro ⟨a, k, record, haccepts⟩
    obtain ⟨⟨access, expiry⟩, hexpiries⟩ := Option.isSome_iff_exists.mp hexpiries
    rw [TokenConfig.refresh_of_accepts haccepts hexpiries]
    exact ⟨_, rfl⟩
  · intro hnot
    have hopens (key : String) (record : TokenRecord) (hfind : before.records.find key = some record) :
        ∃ stored, tokens.storedToken record = .ok stored := by
      obtain ⟨stored, x, hstored, -, -⟩ := hnames.records key record hfind
      exact ⟨stored, hstored⟩
    obtain ⟨failure, hrefresh⟩ := TokenConfig.refresh_of_not_accepts hopens hnot
    rw [hrefresh]
    rfl

/-- Who logs in is entitled by a password. -/
theorem entitled_login_iff {wish : Login} (asks : r.Asks (.free .login))
    (payload : RequestReader.payload Login.shape r = .ok wish) :
    Entitled tokens m r before ↔ ∃ row, before.users.findByUsername wish.username = some row ∧
      verifyPassword wish.password row.passwordHash = .ok true := by
  constructor
  · intro h
    cases h with
    | login _ payload' found password =>
      obtain rfl := Except.ok.inj (payload.symm.trans payload')
      exact ⟨_, found, password⟩
    | refresh asks' => exact absurd (asks.path.symm.trans asks'.path) (by simp)
  · rintro ⟨row, found, password⟩
    exact .login asks payload found password

/-- Who refreshes is entitled by two tokens. -/
theorem entitled_refresh_iff {wish : TokenPair} (asks : r.Asks (.free .refresh))
    (payload : RequestReader.payload TokenPair.shape r = .ok wish) :
    Entitled tokens m r before ↔
      ∃ a k record, tokens.Accepts wish.access wish.refresh m.now before a k record := by
  constructor
  · intro h
    cases h with
    | login asks' => exact absurd (asks.path.symm.trans asks'.path) (by simp)
    | refresh _ payload' accepts =>
      obtain rfl := Except.ok.inj (payload.symm.trans payload')
      exact ⟨_, _, _, accepts⟩
  · rintro ⟨a, k, record, accepts⟩
    exact .refresh asks payload accepts

/-! ### How it is answered -/

/-- What such a service yields is answered by status 200, and what it refuses in one way. -/
theorem Judges.conclude {α : Type} {entitled : Prop} {act : Service Memory α}
    (h : Judges entitled (act before).1) (toJson : α → Json) :
    ∃ response, conclude m r (Handler.answer toJson act before).1 = some response ∧
      (entitled → response.status = 200) ∧
      (¬ entitled → response = finish m r Refusal.badCredentials.toResponse) := by
  rw [Handler.answer_apply]
  by_cases hentitled : entitled
  · obtain ⟨a, ha⟩ := h.granted hentitled
    rw [ha]
    exact ⟨_, rfl, fun _ => finish_status m r _, fun hnot => absurd hentitled hnot⟩
  · rw [h.refused hentitled]
    exact ⟨_, rfl, fun hyes => absurd hyes hentitled, fun _ => rfl⟩

/-- Answers to `POST` keep their bodies. -/
theorem finish_body {route : OpenRoute} (asks : r.Asks (.free route)) (hpost : route.verb = .post)
    (response : Response) : (finish m r response).body = response.body := by
  have hserves : route.verb.serves r.method = true := asks.method
  have hmethod : r.method = "POST" := by
    rw [hpost] at hserves
    simpa [Verb.serves, Verb.methods] using hserves
  rw [finish, if_neg (by rw [hmethod]; decide)]
  rfl

/-- **Credentials are refused alike.** Whatever was asked before of a server whose stores were empty at first,
a login or a refresh is answered; by status 200 exactly if its credentials are in order, and else by the one
answer to bad credentials, whatever the reason. -/
theorem credentials_are_refused_alike (tokens : TokenConfig) (scanLimit hashCost : Nat)
    (earlier : List (Moment × Request)) (m : Moment) {r : Request}
    (hexpiries : (tokens.expiries? m.now).isSome = true) (hpresents : PresentsCredentials r) :
    let server := inMemory tokens scanLimit hashCost
    let state := server.run {} earlier
    ∃ response, (server.handle m r state).1 = some response ∧
      (response.status = 200 ↔ Entitled tokens m r state) ∧
      (response.status ≠ 200 → response = finish m r Refusal.badCredentials.toResponse ∧
        response.status = 401 ∧ response.body = some Refusal.badCredentials.toJson) := by
  intro server state
  have hnames : NamesAccounts tokens state := namesAccounts_run .empty earlier
  have hhashed : state.users.Hashed hashCost := hashed_run (fun _ h => absurd h List.not_mem_nil) earlier
  -- Both routes come to the same three facts, each with its own reading of what entitles.
  suffices hanswer : ∃ response, (server.handle m r state).1 = some response ∧
      (Entitled tokens m r state → response.status = 200) ∧
      (¬ Entitled tokens m r state → response = finish m r Refusal.badCredentials.toResponse) by
    obtain ⟨response, hresponse, hgranted, hrefused⟩ := hanswer
    have hstatus : (finish m r Refusal.badCredentials.toResponse).status = 401 := finish_status m r _
    have hbody : (finish m r Refusal.badCredentials.toResponse).body = some Refusal.badCredentials.toJson := by
      cases hpresents with
      | login asks => exact finish_body asks rfl _
      | refresh asks => exact finish_body asks rfl _
    have hentitled (hok : response.status = 200) : Entitled tokens m r state := by
      by_contra hnot
      rw [hrefused hnot, hstatus] at hok
      exact absurd hok (by decide)
    refine ⟨response, hresponse, ⟨hentitled, hgranted⟩, fun hne => ?_⟩
    have heq := hrefused fun h => hne (hgranted h)
    rw [heq]
    exact ⟨rfl, hstatus, hbody⟩
  cases hpresents with
  | @login wish asks payload =>
    obtain ⟨response, hresponse, hgranted, hrefused⟩ :=
      (judges_login hexpiries hhashed wish).conclude (r := r) IssuedTokens.toJson
    have hentitled : Entitled tokens m r state ↔ _ := entitled_login_iff asks payload
    refine ⟨response, ?_, fun h => hgranted (hentitled.mp h), fun h => hrefused fun h' => h (hentitled.mpr h')⟩
    rw [handle_open asks, answerOpen, Handler.need_bind_apply, payload]
    exact hresponse
  | @refresh wish asks payload =>
    obtain ⟨response, hresponse, hgranted, hrefused⟩ :=
      (judges_refresh hexpiries hnames wish).conclude (r := r) IssuedTokens.toJson
    have hentitled : Entitled tokens m r state ↔ _ := entitled_refresh_iff asks payload
    refine ⟨response, ?_, fun h => hgranted (hentitled.mp h), fun h => hrefused fun h' => h (hentitled.mpr h')⟩
    rw [handle_open asks, answerOpen, Handler.need_bind_apply, payload]
    exact hresponse

/-! ### A sample -/

/-- A sample request with a JSON text in its body. -/
def samplePost (path text : String) : Request where
  method := "POST"
  path := path
  headers := [⟨"content-type", "application/json"⟩]
  body := Utf8.encode text

theorem payload_samplePost {α : Type} {shape : Shape α} {path text : String} {a : α}
    (hsize : (Utf8.encode text).length ≤ RequestReader.maxBodySize)
    (hread : shape.read (Json.Token.ofBytes (Utf8.encode text)) = .ok a) :
    RequestReader.payload shape (samplePost path text) = .ok a :=
  RequestReader.payload_of_first? (Headers.first?_cons_self ..) hsize hread

/-- Someone who is not registered logs in. -/
def sampleLogin : Request :=
  samplePost "/auth/login" "\x7b\"username\":\"eve\",\"password\":\"correct-horse\"\x7d"

/-- Someone presents texts that are no tokens. -/
def sampleForgery : Request :=
  samplePost "/auth/refresh" "\x7b\"shortLivedToken\":\"a\",\"longLivedToken\":\"b\"\x7d"

/-- After the sample registration both are refused in the same way. -/
theorem sample_failures_are_alike :
    let server := inMemory sampleConfig 10 4
    let state := server.run {} [(sampleMoment, sampleRegistration)]
    ∃ unknown forged : Response, (server.handle sampleMoment sampleLogin state).1 = some unknown ∧
      (server.handle sampleMoment sampleForgery state).1 = some forged ∧
      unknown.status = 401 ∧ forged.status = 401 ∧ unknown.body = forged.body := by
  intro server state
  have hexpiries : (sampleConfig.expiries? sampleMoment.now).isSome = true :=
    Option.isSome_of_eq_some (sample_expiries 0 (by decide))
  have hlogin : RequestReader.payload Login.shape sampleLogin = .ok ⟨"eve", "correct-horse"⟩ :=
    payload_samplePost (by decide) rfl
  have hforgery : RequestReader.payload TokenPair.shape sampleForgery = .ok ⟨"a", "b"⟩ :=
    payload_samplePost (by decide) rfl
  obtain ⟨unknown, hunknown, hunknown_ok, hunknown_refused⟩ := credentials_are_refused_alike sampleConfig 10 4
    [(sampleMoment, sampleRegistration)] sampleMoment hexpiries (.login ⟨rfl, rfl⟩ hlogin)
  obtain ⟨forged, hforged, hforged_ok, hforged_refused⟩ := credentials_are_refused_alike sampleConfig 10 4
    [(sampleMoment, sampleRegistration)] sampleMoment hexpiries (.refresh ⟨rfl, rfl⟩ hforgery)
  have hnobody : unknown.status ≠ 200 := by
    intro hok
    obtain ⟨row, hfound, -⟩ := (entitled_login_iff ⟨rfl, rfl⟩ hlogin).mp (hunknown_ok.mp hok)
    obtain ⟨issued, hash, after, hissue, hanswer⟩ := sample_registration
    obtain ⟨_, expiry, -, -, -, rfl⟩ := TokenConfig.of_issue_eq_ok hissue
    have hstate : server.run {} [(sampleMoment, sampleRegistration)] = _ := congrArg Prod.snd hanswer
    rw [hstate] at hfound
    exact absurd hfound (by simp [Directory.findByUsername, sampleUser])
  have hforgery_fails : forged.status ≠ 200 := by
    intro hok
    obtain ⟨a, k, record, haccepts⟩ := (entitled_refresh_iff ⟨rfl, rfl⟩ hforgery).mp (hforged_ok.mp hok)
    exact absurd haccepts.access nofun
  obtain ⟨-, hunknown_status, hunknown_body⟩ := hunknown_refused hnobody
  obtain ⟨-, hforged_status, hforged_body⟩ := hforged_refused hforgery_fails
  exact ⟨unknown, forged, hunknown, hforged, hunknown_status, hforged_status,
    hunknown_body.trans hforged_body.symm⟩

end Server

end Gatehouse

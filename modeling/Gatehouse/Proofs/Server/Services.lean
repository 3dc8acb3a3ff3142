import Gatehouse.Proofs.Auth.Lifecycle
import Gatehouse.Proofs.Traversal
import Gatehouse.Proofs.Users.Directory
import Gatehouse.Server.Handler

/-!
# Services over the stores in memory

What each service does to the stores in memory, and what it answers, without the monad it is written in:
one equation for each service, with its checks in order. A service that is refused leaves the stores as they
were.
-/

namespace Gatehouse

open Http (Request Response)

/-! ### The monads -/

namespace Action

variable {σ ε ε' α β : Type}

/-- An action whose cause is changed does what it did. -/
theorem mapError_apply (f : ε → ε') (act : Action σ ε α) (s : σ) :
    mapError f act s = ((act s).1.mapError f, (act s).2) := rfl

/-- An action whose result is changed does what it did. -/
theorem bind_pure_apply (act : Action σ ε α) (f : α → β) (s : σ) :
    (act >>= fun a => pure (f a)) s = ((act s).1.map f, (act s).2) := by
  rw [bind_apply]
  rcases act s with ⟨_ | _, _⟩ <;> rfl

end Action

namespace Memory

variable (mem : Memory)

/-! ### Operations on accounts -/

theorem onUsers_apply {ε α : Type} (f : Directory → α × Directory) :
    (onUsers f : Action Memory ε α) mem = (.ok (f mem.users).1, { mem with users := (f mem.users).2 }) := rfl

theorem findByUsername_apply (username : String) :
    access.users.findByUsername username mem = (.ok (mem.users.findByUsername username), mem) := rfl

theorem findById_apply (id : String) :
    access.users.findById id mem = (.ok (mem.users.findById id), mem) := rfl

theorem taken_apply (username : String) (email : Option String) :
    access.users.taken username email mem = (.ok (mem.users.taken username email), mem) := rfl

theorem list_apply (page : ListPage) : access.users.list page mem = (.ok (mem.users.list page), mem) := rfl

theorem setPasswordHash_apply (id hash : String) (now : Instant) :
    access.users.setPasswordHash id hash now mem =
      (.ok (mem.users.setPasswordHash id hash now).1,
        { mem with users := (mem.users.setPasswordHash id hash now).2 }) := rfl

theorem updateProfile_apply (id : String) (update : ProfileUpdate) (now : Instant) :
    access.users.updateProfile id update now mem =
      match mem.users.updateProfile id update now with
      | (.updated user, users) => (.ok (some user), { mem with users })
      | (.missing, users) => (.ok none, { mem with users })
      | (.emailTaken, users) => (.error .alreadyExists, { mem with users }) := by
  change (onUsers (fun d => d.updateProfile id update now) >>= _) mem = _
  rw [Action.bind_apply, onUsers_apply]
  rcases mem.users.updateProfile id update now with ⟨_ | _ | _, _⟩ <;> rfl

variable {mem}

/-- An account is added if its username and email are free. -/
theorem create_apply {new : NewUser} (h : mem.users.taken new.username new.email = false)
    (now : Instant) (id : String) :
    access.users.create new now id mem =
      (.ok (mem.users.account new now id),
        { mem with users := mem.users.add ⟨mem.users.account new now id, new.passwordHash⟩ }) := by
  change (onUsers (fun d => d.create new now id) >>= _) mem = _
  rw [Action.bind_apply, onUsers_apply, Directory.create_of_free h]
  rfl

/-- No account is added if the username or email is taken. -/
theorem create_of_taken {new : NewUser} (h : mem.users.taken new.username new.email = true)
    (now : Instant) (id : String) : access.users.create new now id mem = (.error .alreadyExists, mem) := by
  change (onUsers (fun d => d.create new now id) >>= _) mem = _
  rw [Action.bind_apply, onUsers_apply, Directory.create, if_pos h]
  rfl

end Memory

namespace Service

variable {σ α β : Type}

/-- A check changes nothing, and what comes after it goes on from its value. -/
theorem ofExcept_bind_apply (x : Except Refusal α) (f : α → Service σ β) (s : σ) :
    (ofExcept x >>= f) s = match x with
      | .ok a => f a s
      | .error e => (.error (.error e), s) := by
  rw [Action.bind_apply]
  cases x with
  | ok a => rfl
  | error e => rfl

/-- A computation on credentials changes nothing. -/
theorem onCredentials_bind_apply (x : Except AuthError α) (f : α → Service σ β) (s : σ) :
    (onCredentials x >>= f) s = match x with
      | .ok a => f a s
      | .error e => (.error (.error (.ofAuthError e)), s) := by
  rw [onCredentials, ofExcept_bind_apply]
  cases x with
  | ok a => rfl
  | error e => rfl

/-- An operation on accounts that succeeds. -/
theorem onUsers_bind_apply {act : Action σ UserError α} {a : α} {s s' : σ} (h : act s = (.ok a, s'))
    (f : α → Service σ β) : (onUsers act >>= f) s = f a s' := by
  rw [Action.bind_apply, onUsers, Action.mapError_apply, h]
  rfl

end Service

/-- The account that a registration in order asks for. -/
def Registration.newUser (r : Registration) (hash : String) : NewUser := ⟨r.username, r.name, r.email, hash⟩

/-- A registration in order has a username and a password that is long enough, and no blanks around its
texts. -/
theorem Registration.of_tidy_eq_ok {wish order : Registration} (h : wish.tidy = .ok order) :
    order = ⟨Text.trim wish.username, wish.password, Text.trim wish.name, tidyEmail wish.email⟩ ∧
      Text.trim wish.username ≠ "" ∧ checkNewPassword wish.password = .ok () := by
  rw [tidy] at h
  split at h
  · exact absurd h nofun
  next hname =>
    obtain ⟨_, hpassword, h⟩ := bind_eq_ok_iff.mp h
    exact ⟨(Except.ok.inj h).symm, hname, hpassword⟩

namespace Server

/-- A server over the stores in memory. -/
def inMemory (tokens : TokenConfig) (scanLimit hashCost : Nat) : Server Memory :=
  ⟨Memory.access, tokens, scanLimit, hashCost⟩

variable (tokens : TokenConfig) (scanLimit hashCost : Nat) (m : Moment) (before : Memory)

@[simp] theorem inMemory_access : (inMemory tokens scanLimit hashCost).access = Memory.access := rfl

@[simp] theorem inMemory_tokens : (inMemory tokens scanLimit hashCost).tokens = tokens := rfl

@[simp] theorem inMemory_hashCost : (inMemory tokens scanLimit hashCost).hashCost = hashCost := rfl

/-! ### Sessions -/

/-- A login: the account of the username, its password, and then the tokens. -/
theorem login_eq (l : Login) :
    (inMemory tokens scanLimit hashCost).login m l before =
      match before.users.findByUsername l.username with
      | none => (.error (.error .badCredentials), before)
      | some found =>
        match verifyPassword l.password found.passwordHash with
        | .error e => (.error (.error (.ofAuthError e)), before)
        | .ok false => (.error (.error .badCredentials), before)
        | .ok true => Service.onTokens
          (tokens.issue Memory.recordAccess found.user.subject m.now m.tokens) before := by
  rw [login, inMemory_access, Service.onUsers_bind_apply (Memory.findByUsername_apply _ _)]
  cases before.users.findByUsername l.username with
  | none => rfl
  | some found =>
    dsimp only
    rw [Service.onCredentials_bind_apply]
    rcases verifyPassword l.password found.passwordHash with _ | _ | _ <;> rfl

/-- A registration: its form, its username and email, the hash of its password, and then the account and the
tokens. -/
theorem register_eq (r : Registration) :
    (inMemory tokens scanLimit hashCost).register m r before =
      match r.tidy with
      | .error e => (.error (.error e), before)
      | .ok r =>
        if before.users.taken r.username r.email then
          (.error (.error (.conflict "Username or email already registered")), before)
        else match hashPassword hashCost m.salt r.password with
        | .error e => (.error (.error (.ofAuthError e)), before)
        | .ok hash =>
          let user := before.users.account (r.newUser hash) m.now m.userId.render
          let issued := Service.onTokens (tokens.issue Memory.recordAccess user.subject m.now m.tokens)
            { before with users := before.users.add ⟨user, hash⟩ }
          (issued.1.map (⟨user, ·⟩), issued.2) := by
  rw [register, inMemory_access, inMemory_hashCost, Service.ofExcept_bind_apply]
  cases r.tidy with
  | error e => rfl
  | ok r =>
    dsimp only
    rw [Service.onUsers_bind_apply (Memory.taken_apply _ _ _)]
    cases htaken : before.users.taken r.username r.email with
    | true => rfl
    | false =>
      rw [if_neg Bool.false_ne_true, if_neg Bool.false_ne_true, Service.onCredentials_bind_apply]
      cases hashPassword hashCost m.salt r.password with
      | error e => rfl
      | ok hash =>
        dsimp only
        rw [Service.onUsers_bind_apply (Memory.create_apply htaken _ _), Action.bind_pure_apply]
        rfl

/-- Asking whether a refresh token is alive changes nothing. -/
theorem verify_eq (token : String) :
    (inMemory tokens scanLimit hashCost).verify m token before =
      (match tokens.verify token .refresh true m.now with
        | .error _ => .ok false
        | .ok claims => (tokens.keepsAlive token (before.records.find claims.sub) m.now).mapError fun e =>
          .error (.ofAuthError e), before) := by
  rw [verify, Service.onRecords, Action.mapError_apply, inMemory_access, inMemory_tokens]
  change (Except.mapError _ (tokens.verifyRefreshToken Memory.recordAccess token m.now before).1,
    (tokens.verifyRefreshToken Memory.recordAccess token m.now before).2) = _
  rw [tokens.verifyRefreshToken_eq]
  cases tokens.verify token .refresh true m.now with
  | error _ => rfl
  | ok claims => rfl

/-- A logout deletes the caller's own record. -/
theorem logout_eq (caller : Claims) :
    (inMemory tokens scanLimit hashCost).logout caller before =
      (.ok (before.records.find caller.sub).isSome,
        { before with records := (before.records.delete caller.sub).2 }) := rfl

/-- A revoke deletes the record of the subject, if the caller is the subject or an admin. -/
theorem revoke_eq (caller : Claims) (subject : String) :
    (inMemory tokens scanLimit hashCost).revoke caller subject before =
      if caller.sub = subject ∨ caller.isAdmin = true then
        (.ok (before.records.find subject).isSome,
          { before with records := (before.records.delete subject).2 })
      else (.error (.error (.forbidden "Cannot revoke another user's tokens")), before) := by
  rw [revoke]
  by_cases hallowed : caller.sub = subject ∨ caller.isAdmin = true
  · have hpass : (decide (caller.sub ≠ subject) && !caller.isAdmin) = false := by
      rcases hallowed with hsub | hadmin
      · simp [hsub]
      · simp [hadmin]
    rw [hpass, if_pos hallowed]
    rfl
  · obtain ⟨hsub, hadmin⟩ := not_or.mp hallowed
    rw [if_neg hallowed, if_pos (by simp [hsub, hadmin])]
    rfl

/-! ### Accounts -/

/-- A listing changes nothing. -/
theorem listUsers_eq (t : QueryText) :
    (inMemory tokens scanLimit hashCost).listUsers t before =
      match t.read with
      | .error _ => (.error (.error .badQuery), before)
      | .ok q =>
        (.ok (if q.isWindow then
            Query.apply { projection := q.projection } ((before.users.list (q.window scanLimit)).map User.toJson)
          else q.apply ((before.users.list ⟨0, scanLimit⟩).map User.toJson)), before) := by
  rw [listUsers, Service.ofExcept_bind_apply]
  cases t.read with
  | error _ => rfl
  | ok q =>
    change (if q.isWindow then _ else _ : Service Memory (List Json)) before = _
    dsimp only
    cases q.isWindow with
    | true =>
      rw [if_pos rfl, if_pos rfl]
      exact Service.onUsers_bind_apply (Memory.list_apply _ _) _
    | false =>
      rw [if_neg Bool.false_ne_true, if_neg Bool.false_ne_true]
      exact Service.onUsers_bind_apply (Memory.list_apply _ _) _

/-- Looking at an account changes nothing. -/
theorem getUser_eq (id : String) :
    (inMemory tokens scanLimit hashCost).getUser id before =
      match before.users.findById id with
      | some found => (.ok found.user, before)
      | none => (.error (.error .userNotFound), before) := by
  rw [getUser, inMemory_access, Service.onUsers_bind_apply (Memory.findById_apply _ _)]
  cases before.users.findById id with
  | none => rfl
  | some found => rfl

/-- A change of profile: its form, and then the account. -/
theorem updateProfile_eq (caller : Claims) (w : ProfileWish) :
    (inMemory tokens scanLimit hashCost).updateProfile m caller w before =
      match w.tidy with
      | .error e => (.error (.error e), before)
      | .ok update =>
        match before.users.updateProfile caller.sub update m.now with
        | (.updated user, users) => (.ok user, { before with users })
        | (.missing, _) => (.error (.error .userNotFound), before)
        | (.emailTaken, _) => (.error (.error (.ofUserError .alreadyExists)), before) := by
  rw [updateProfile, Service.ofExcept_bind_apply]
  cases w.tidy with
  | error e => rfl
  | ok update =>
    dsimp only
    rw [Action.bind_apply, Service.onUsers, Action.mapError_apply, inMemory_access, Memory.updateProfile_apply]
    cases hupdate : before.users.updateProfile caller.sub update m.now with
    | mk outcome users =>
      cases outcome with
      | updated user => rfl
      | missing =>
        obtain rfl := Directory.updateProfile_eq_self hupdate nofun
        rfl
      | emailTaken =>
        obtain rfl := Directory.updateProfile_eq_self hupdate nofun
        rfl

/-- A change of password: the account, the form of the change, the old password, and the new hash. -/
theorem changePassword_eq (caller : Claims) (c : PasswordChange) :
    (inMemory tokens scanLimit hashCost).changePassword m caller c before =
      match before.users.findById caller.sub with
      | none => (.error (.error .userNotFound), before)
      | some found =>
        match checkChange c with
        | .error e => (.error (.error e), before)
        | .ok () =>
          match verifyPassword c.old found.passwordHash with
          | .error e => (.error (.error (.ofAuthError e)), before)
          | .ok false => (.error (.error (.validation "Invalid old password")), before)
          | .ok true =>
            match hashPassword hashCost m.salt c.new with
            | .error e => (.error (.error (.ofAuthError e)), before)
            | .ok hash =>
              (.ok { found.user with updatedAt := m.now },
                { before with users := (before.users.setPasswordHash caller.sub hash m.now).2 }) := by
  rw [changePassword, inMemory_access, Service.onUsers_bind_apply (Memory.findById_apply _ _)]
  cases hfound : before.users.findById caller.sub with
  | none => rfl
  | some found =>
    dsimp only
    rw [Service.ofExcept_bind_apply]
    cases checkChange c with
    | error e => rfl
    | ok _ =>
      dsimp only
      rw [Service.onCredentials_bind_apply]
      rcases verifyPassword c.old found.passwordHash with e | _ | _
      · rfl
      · rfl
      · dsimp only
        rw [if_pos rfl, Service.onCredentials_bind_apply, inMemory_hashCost]
        cases hashPassword hashCost m.salt c.new with
        | error e => rfl
        | ok hash =>
          obtain ⟨hid, -⟩ := Directory.exists_index_of_findById hfound
          obtain ⟨i, -, hset, hstill⟩ := Directory.setPasswordHash_of_findById hfound hash m.now
          dsimp only
          rw [Service.onUsers_bind_apply (Memory.setPasswordHash_apply _ _ _ _), hid, hset]
          rw [hset] at hstill
          dsimp only at hstill ⊢
          rw [if_pos rfl, getUser_eq]
          dsimp only
          rw [hstill, ← hid]

end Server

end Gatehouse

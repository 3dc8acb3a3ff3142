import Gatehouse.Proofs.Server.Services

/-!
# Registering at the same time

Any number of clients register over the same stores in memory. Each use of a store is atomic, but a
registration uses the stores three times: it looks whether username and email are free, later it makes the
account, and at last it issues the tokens; and in between the password is hashed, which takes long. Between
these the others go on. So a registration is cut into four moves: `check`, `hash`, `create` and `issue`.

`register_eq_moves` says that the four moves in a row are the registration itself; `step_effect` says all that
a move can do.
-/

namespace Gatehouse.Registering

/-- A server that hashes and issues, and what each client wishes for. -/
structure Contest where
  tokens : TokenConfig
  hashCost : Nat
  wish : Nat → Registration

/-- How far the registration of a client has come. -/
inductive Stage where
  | waiting
  /-- The form is in order, and neither username nor email were taken. -/
  | cleared (order : Registration)
  | hashed (order : Registration) (hash : String)
  /-- The account is made. -/
  | created (user : User)
  | answered (answer : Except Refusal Registered)
  /-- The account is made, but there is no answer because an expiry lies outside the calendar. -/
  | stranded (user : User)

/-- The stores, and how far each client has come. -/
structure World where
  memory : Memory := {}
  stage : Nat → Stage := fun _ => .waiting

/-- A client comes to a stage. -/
def World.enter (w : World) (client : Nat) (stage : Stage) : World :=
  { w with stage := fun i => if i = client then stage else w.stage i }

/-- An account is made for a client. -/
def World.make (w : World) (client : Nat) (row : StoredUser) : World :=
  { w with memory := { w.memory with users := w.memory.users.add row } }.enter client (.created row.user)

/-- A move, with the time and the draws that it needs. -/
inductive Move where
  | check (client : Nat)
  | hash (client : Nat) (salt : Crypto.Bcrypt.Salt)
  | create (client : Nat) (now : Instant) (id : String)
  | issue (client : Nat) (now : Instant) (draws : TokenDraws)

/-- Whose move it is. -/
def Move.client : Move → Nat
  | .check client | .hash client _ | .create client _ _ | .issue client _ _ => client

/-- The id that is drawn for a new account. -/
def Move.newId? : Move → Option String
  | .create _ _ id => some id
  | _ => none

/-- What others may notice of a move. -/
inductive Event where
  /-- An account is made. -/
  | made (client : Nat) (row : StoredUser)
  /-- An account is not made, because username or email are taken by now. -/
  | collided (client : Nat)
  | silent

/-- Make a move. A client that has not come so far makes none. -/
def step (c : Contest) (w : World) : Move → Event × World
  | .check client =>
    match w.stage client with
    | .waiting =>
      match (c.wish client).tidy with
      | .error e => (.silent, w.enter client (.answered (.error e)))
      | .ok order =>
        if w.memory.users.taken order.username order.email then
          (.silent, w.enter client (.answered (.error (.conflict "Username or email already registered"))))
        else (.silent, w.enter client (.cleared order))
    | _ => (.silent, w)
  | .hash client salt =>
    match w.stage client with
    | .cleared order =>
      match hashPassword c.hashCost salt order.password with
      | .error e => (.silent, w.enter client (.answered (.error (.ofAuthError e))))
      | .ok hash => (.silent, w.enter client (.hashed order hash))
    | _ => (.silent, w)
  | .create client now id =>
    match w.stage client with
    | .hashed order hash =>
      match w.memory.users.create (order.newUser hash) now id with
      | (some user, users) =>
        (.made client ⟨user, hash⟩, { w with memory := { w.memory with users } }.enter client (.created user))
      | (none, _) => (.collided client, w.enter client (.answered (.error (.ofUserError .alreadyExists))))
    | _ => (.silent, w)
  | .issue client now draws =>
    match w.stage client with
    | .created user =>
      match c.tokens.issue Memory.recordAccess user.subject now draws w.memory with
      | (.ok tokens, memory) => (.silent, { w with memory }.enter client (.answered (.ok ⟨user, tokens⟩)))
      | (.error .overflow, _) => (.silent, w.enter client (.stranded user))
      | (.error (.error e), _) => (.silent, w.enter client (.answered (.error (.ofAuthError e))))
    | _ => (.silent, w)

/-- Make moves one after another. -/
def run (c : Contest) (w : World) : List Move → World
  | [] => w
  | m :: moves => run c (step c w m).2 moves

/-- What others may notice of moves one after another. -/
def log (c : Contest) (w : World) : List Move → List Event
  | [] => []
  | m :: moves => (step c w m).1 :: log c (step c w m).2 moves

variable {c : Contest} {w : World} {client : Nat}

/-- One more move. -/
theorem run_concat (w : World) (moves : List Move) (m : Move) :
    run c w (moves ++ [m]) = (step c (run c w moves) m).2 := by
  induction moves generalizing w with
  | nil => rfl
  | cons m' moves ih => exact ih (step c w m').2

/-- What others may notice of one more move. -/
theorem log_concat (w : World) (moves : List Move) (m : Move) :
    log c w (moves ++ [m]) = log c w moves ++ [(step c (run c w moves) m).1] := by
  induction moves generalizing w with
  | nil => rfl
  | cons m' moves ih => exact congrArg ((step c w m').1 :: ·) (ih (step c w m').2)

/-! ### The four moves of a registration -/

@[simp] theorem enter_memory (w : World) (client : Nat) (stage : Stage) :
    (w.enter client stage).memory = w.memory := rfl

@[simp] theorem enter_stage_self (w : World) (client : Nat) (stage : Stage) :
    (w.enter client stage).stage client = stage := if_pos rfl

theorem enter_stage_of_ne (w : World) {client i : Nat} (stage : Stage) (h : i ≠ client) :
    (w.enter client stage).stage i = w.stage i := if_neg h

/-- The answer that a client has, if there is one yet. -/
def Stage.answer? : Stage → Option (Except Refusal Registered)
  | .answered answer => some answer
  | _ => none

/-- What a service answers, unless an expiry lies outside the calendar. -/
def answerOf? {α : Type} : Except (Stop Refusal) α → Option (Except Refusal α)
  | .ok a => some (.ok a)
  | .error (.error e) => some (.error e)
  | .error .overflow => none

section Equations

/-- A client that waits may begin. -/
theorem step_check (h : w.stage client = .waiting) :
    step c w (.check client) =
      match (c.wish client).tidy with
      | .error e => (.silent, w.enter client (.answered (.error e)))
      | .ok order =>
        if w.memory.users.taken order.username order.email then
          (.silent, w.enter client (.answered (.error (.conflict "Username or email already registered"))))
        else (.silent, w.enter client (.cleared order)) := by
  rw [step, h]

/-- A client whose form is in order may have the password hashed. -/
theorem step_hash {order : Registration} (h : w.stage client = .cleared order) (salt : Crypto.Bcrypt.Salt) :
    step c w (.hash client salt) =
      match hashPassword c.hashCost salt order.password with
      | .error e => (.silent, w.enter client (.answered (.error (.ofAuthError e))))
      | .ok hash => (.silent, w.enter client (.hashed order hash)) := by
  rw [step, h]

/-- A client whose password is hashed may have the account made, if username and email are free still. -/
theorem step_create_of_free {order : Registration} {hash : String} (h : w.stage client = .hashed order hash)
    (hfree : w.memory.users.taken order.username order.email = false) (now : Instant) (id : String) :
    let row : StoredUser := ⟨w.memory.users.account (order.newUser hash) now id, hash⟩
    step c w (.create client now id) = (.made client row, w.make client row) := by
  intro row
  have hcreate : w.memory.users.create (order.newUser hash) now id = (some row.user, w.memory.users.add row) :=
    Directory.create_of_free hfree now id
  rw [step, h]
  dsimp only
  rw [hcreate]
  rfl

/-- If they are taken by now, the account is not made. -/
theorem step_create_of_taken {order : Registration} {hash : String} (h : w.stage client = .hashed order hash)
    (htaken : w.memory.users.taken order.username order.email = true) (now : Instant) (id : String) :
    step c w (.create client now id) =
      (.collided client, w.enter client (.answered (.error (.ofUserError .alreadyExists)))) := by
  have hcreate : w.memory.users.create (order.newUser hash) now id = (none, w.memory.users) := by
    rw [Directory.create]
    exact if_pos htaken
  rw [step, h]
  dsimp only
  rw [hcreate]

/-- A client whose account is made may have the tokens issued. -/
theorem step_issue {user : User} (h : w.stage client = .created user) (now : Instant) (draws : TokenDraws) :
    step c w (.issue client now draws) =
      match c.tokens.issue Memory.recordAccess user.subject now draws w.memory with
      | (.ok tokens, memory) => (.silent, { w with memory }.enter client (.answered (.ok ⟨user, tokens⟩)))
      | (.error .overflow, _) => (.silent, w.enter client (.stranded user))
      | (.error (.error e), _) => (.silent, w.enter client (.answered (.error (.ofAuthError e)))) := by
  rw [step, h]

/-- The last move answers what issuing the tokens comes to. -/
theorem step_issue_eq_onTokens {user : User} (h : w.stage client = .created user) (now : Instant)
    (draws : TokenDraws) :
    let issued := Service.onTokens (c.tokens.issue Memory.recordAccess user.subject now draws) w.memory
    ((step c w (.issue client now draws)).2.stage client).answer? = answerOf? (issued.1.map (⟨user, ·⟩)) ∧
      (step c w (.issue client now draws)).2.memory = issued.2 := by
  dsimp only
  rw [step_issue h, Service.onTokens, Action.mapError_apply]
  cases hissue : c.tokens.issue Memory.recordAccess user.subject now draws w.memory with
  | mk result memory =>
    cases result with
    | ok tokens =>
      dsimp only
      rw [enter_stage_self]
      exact ⟨rfl, rfl⟩
    | error stop =>
      obtain rfl := TokenConfig.of_issue_eq_error hissue
      cases stop with
      | error e =>
        dsimp only
        rw [enter_stage_self]
        exact ⟨rfl, rfl⟩
      | overflow =>
        dsimp only
        rw [enter_stage_self]
        exact ⟨rfl, rfl⟩

/-- A client that has an answer makes no further moves. -/
theorem step_of_answered {answer : Except Refusal Registered} {m : Move} (h : w.stage m.client = .answered answer) :
    step c w m = (.silent, w) := by
  cases m with
  | check client | hash client salt | create client now id | issue client now draws =>
    rw [Move.client] at h
    rw [step, h]

theorem run_of_answered {answer : Except Refusal Registered} (h : w.stage client = .answered answer)
    {moves : List Move} (hmoves : ∀ m ∈ moves, m.client = client) : run c w moves = w := by
  induction moves with
  | nil => rfl
  | cons m moves ih =>
    have hm : w.stage m.client = .answered answer := by rw [hmoves m List.mem_cons_self, h]
    rw [run, step_of_answered hm]
    exact ih fun m' hm' => hmoves m' (List.mem_cons_of_mem m hm')

end Equations

/-- **The four moves of a client in a row are the registration**: the same answer, and the same stores after
it. -/
theorem register_eq_moves (h : w.stage client = .waiting) (scanLimit : Nat) (m : Moment) :
    let moves := [.check client, .hash client m.salt, .create client m.now m.userId.render,
      .issue client m.now m.tokens]
    let registered := (Server.inMemory c.tokens scanLimit c.hashCost).register m (c.wish client) w.memory
    ((run c w moves).stage client).answer? = answerOf? registered.1 ∧
      (run c w moves).memory = registered.2 := by
  intro moves registered
  -- Once the client has an answer, the moves that are left change nothing.
  have hrefused {e : Refusal} {rest : List Move} (hrest : ∀ m ∈ rest, m.client = client) (w' : World) :
      run c (w'.enter client (.answered (.error e))) rest = w'.enter client (.answered (.error e)) :=
    run_of_answered (enter_stage_self _ _ _) hrest
  have hregistered : registered = _ := Server.register_eq c.tokens scanLimit c.hashCost m w.memory (c.wish client)
  rw [hregistered]
  dsimp only [moves]
  rw [run, step_check h]
  cases (c.wish client).tidy with
  | error e =>
    dsimp only
    rw [hrefused (by simp [Move.client]), enter_stage_self]
    exact ⟨rfl, rfl⟩
  | ok order =>
    dsimp only
    cases hfree : w.memory.users.taken order.username order.email with
    | true =>
      rw [if_pos rfl, if_pos rfl, hrefused (by simp [Move.client]), enter_stage_self]
      exact ⟨rfl, rfl⟩
    | false =>
      rw [if_neg Bool.false_ne_true, if_neg Bool.false_ne_true, run, step_hash (enter_stage_self _ _ _)]
      cases hashPassword c.hashCost m.salt order.password with
      | error e =>
        dsimp only
        rw [hrefused (by simp [Move.client]), enter_stage_self]
        exact ⟨rfl, rfl⟩
      | ok hash =>
        have hhashed : ((w.enter client (.cleared order)).enter client (.hashed order hash)).stage client =
          .hashed order hash := enter_stage_self _ _ _
        dsimp only
        rw [run, step_create_of_free hhashed hfree]
        exact step_issue_eq_onTokens (enter_stage_self _ _ _) m.now m.tokens

/-! ### What a move can do -/

/-- The account that was made for the client. -/
def Stage.user? : Stage → Option User
  | .created user | .stranded user => some user
  | .answered (.ok p) => some p.user
  | _ => none

/-- **What a move can do.** It does nothing, or it brings one client to the next stage. -/
inductive Effect (c : Contest) (w : World) : Move → Event → World → Prop where
  | idle (m : Move) : Effect c w m .silent w
  | rejected {i : Nat} {e : Refusal} (stage : w.stage i = .waiting) (tidy : (c.wish i).tidy = .error e) :
      Effect c w (.check i) .silent (w.enter i (.answered (.error e)))
  | taken {i : Nat} {order : Registration} {message : String} (stage : w.stage i = .waiting)
      (tidy : (c.wish i).tidy = .ok order) (taken : w.memory.users.taken order.username order.email = true) :
      Effect c w (.check i) .silent (w.enter i (.answered (.error (.conflict message))))
  | cleared {i : Nat} {order : Registration} (stage : w.stage i = .waiting)
      (tidy : (c.wish i).tidy = .ok order) :
      Effect c w (.check i) .silent (w.enter i (.cleared order))
  | unhashed {i : Nat} {salt : Crypto.Bcrypt.Salt} {order : Registration} {fault : AuthError}
      (stage : w.stage i = .cleared order) (unhashed : hashPassword c.hashCost salt order.password = .error fault) :
      Effect c w (.hash i salt) .silent (w.enter i (.answered (.error (.ofAuthError fault))))
  | hashed {i : Nat} {salt : Crypto.Bcrypt.Salt} {order : Registration} {hash : String}
      (stage : w.stage i = .cleared order) (hashed : hashPassword c.hashCost salt order.password = .ok hash) :
      Effect c w (.hash i salt) .silent (w.enter i (.hashed order hash))
  | collided {i : Nat} {now : Instant} {id : String} {order : Registration} {hash message : String}
      (stage : w.stage i = .hashed order hash)
      (taken : w.memory.users.taken order.username order.email = true) :
      Effect c w (.create i now id) (.collided i) (w.enter i (.answered (.error (.conflict message))))
  | made {i : Nat} {now : Instant} {id : String} {order : Registration} {hash : String}
      (stage : w.stage i = .hashed order hash)
      (free : w.memory.users.taken order.username order.email = false) :
      Effect c w (.create i now id) (.made i ⟨w.memory.users.account (order.newUser hash) now id, hash⟩)
        (w.make i ⟨w.memory.users.account (order.newUser hash) now id, hash⟩)
  | issued {i : Nat} {now : Instant} {draws : TokenDraws} {user : User} {tokens : IssuedTokens} {memory : Memory}
      (stage : w.stage i = .created user)
      (issue : c.tokens.issue Memory.recordAccess user.subject now draws w.memory = (.ok tokens, memory)) :
      Effect c w (.issue i now draws) .silent ({ w with memory }.enter i (.answered (.ok ⟨user, tokens⟩)))
  | stranded {i : Nat} {now : Instant} {draws : TokenDraws} {user : User} (stage : w.stage i = .created user)
      (overflow : c.tokens.expiries? now = none) :
      Effect c w (.issue i now draws) .silent (w.enter i (.stranded user))

/-- Every move does one of these. -/
theorem step_effect (c : Contest) (w : World) (m : Move) : Effect c w m (step c w m).1 (step c w m).2 := by
  cases m with
  | check i =>
    cases hstage : w.stage i with
    | waiting =>
      rw [step_check hstage]
      cases htidy : (c.wish i).tidy with
      | error e => exact .rejected hstage htidy
      | ok order =>
        dsimp only
        cases htaken : w.memory.users.taken order.username order.email with
        | true => exact .taken hstage htidy htaken
        | false => exact .cleared hstage htidy
    | _ =>
      rw [step, hstage]
      exact .idle _
  | hash i salt =>
    cases hstage : w.stage i with
    | cleared order =>
      rw [step_hash hstage]
      cases hhash : hashPassword c.hashCost salt order.password with
      | error fault => exact .unhashed hstage hhash
      | ok hash => exact .hashed hstage hhash
    | _ =>
      rw [step, hstage]
      exact .idle _
  | create i now id =>
    cases hstage : w.stage i with
    | hashed order hash =>
      cases htaken : w.memory.users.taken order.username order.email with
      | true =>
        rw [step_create_of_taken hstage htaken]
        exact .collided hstage htaken
      | false =>
        rw [step_create_of_free hstage htaken]
        exact .made hstage htaken
    | _ =>
      rw [step, hstage]
      exact .idle _
  | issue i now draws =>
    cases hstage : w.stage i with
    | created user =>
      rw [step_issue hstage]
      cases hissue : c.tokens.issue Memory.recordAccess user.subject now draws w.memory with
      | mk result memory =>
        cases result with
        | ok tokens => exact .issued hstage hissue
        | error stop =>
          obtain ⟨rfl, hnone⟩ := TokenConfig.overflow_of_issue_eq_error hissue
          exact .stranded hstage hnone
    | _ =>
      rw [step, hstage]
      exact .idle _

end Gatehouse.Registering

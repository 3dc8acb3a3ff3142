import Gatehouse.Proofs.Auth.Lifecycle

/-!
# Interleaved operations

Any number of clients use one record store in memory. Each operation on the store is atomic, but a
refresh uses it twice: it reads the record, and later writes to it. Between the two the others go on. So
a refresh is cut into three moves: `read` verifies the tokens and reads the record, `check` checks the
record that was read, and `write` mints the access token and extends the record if its version is still
the one that was read. Issuing and revoking use the store once and are one move each.

`refresh_eq_moves` says that the three moves in a row are the refresh itself; `step_effect` says all
that a move can do to the store.
-/

namespace Gatehouse.Interleaving

/-- How far the refresh of a client has come. -/
inductive Stage where
  | idle
  /-- The tokens have verified, and the record of the refresh token's subject was read. -/
  | read (access refresh : Claims) (token : String) (found : Option TokenRecord)
  /-- The record that was read has passed the checks. -/
  | checked (refresh : Claims) (token : String) (record : TokenRecord)
  deriving DecidableEq, Repr

/-- The stores, and how far each client has come. -/
structure World where
  memory : Memory
  stage : Nat → Stage := fun _ => .idle

/-- The record of a subject. -/
def World.find (w : World) (subject : String) : Option TokenRecord := w.memory.records.find subject

/-- A client comes to a stage. -/
def World.enter (w : World) (client : Nat) (stage : Stage) : World :=
  { w with stage := fun i => if i = client then stage else w.stage i }

/-- A move, and when it is made. -/
inductive Move where
  | issue (now : Instant) (s : Subject) (draws : TokenDraws)
  | revoke (subject : String)
  | read (client : Nat) (now : Instant) (access token : String)
  | check (client : Nat) (now : Instant)
  | write (client : Nat) (now : Instant) (accessId : Uuid)

/-- What comes of a move. -/
inductive Event where
  | issued (now : Instant) (s : Subject) (tokens : IssuedTokens)
  | revoked (subject : String) (deleted : Bool)
  /-- A refresh that had read a record is answered. -/
  | refreshed (now : Instant) (read : TokenRecord) (tokens : IssuedTokens)
  /-- A refresh that had read a record and passed its checks has come to nothing. -/
  | lost (read : TokenRecord) (stop : Stop AuthError)
  /-- An operation has come to nothing before it wrote. -/
  | refused (stop : Stop AuthError)
  /-- There is no answer yet. -/
  | silent

/-- Make a move. A client that has not come so far makes none. -/
def step (c : TokenConfig) (w : World) : Move → Event × World
  | .issue now s draws =>
    match c.issue Memory.recordAccess s now draws w.memory with
    | (.ok tokens, memory) => (.issued now s tokens, { w with memory })
    | (.error stop, memory) => (.refused stop, { w with memory })
  | .revoke subject =>
    let (deleted, records) := w.memory.records.delete subject
    (.revoked subject deleted, { w with memory := { w.memory with records } })
  | .read client now access token =>
    match w.stage client with
    | .idle =>
      match c.checkTokens access token now with
      | .ok (a, k) => (.silent, w.enter client (.read a k token (w.find k.sub)))
      | .error e => (.refused (.error e), w)
    | _ => (.silent, w)
  | .check client now =>
    match w.stage client with
    | .read a k token found =>
      match c.checkRecord a k token found now with
      | .ok r => (.silent, w.enter client (.checked k token r))
      | .error e => (.refused (.error e), w.enter client .idle)
    | _ => (.silent, w)
  | .write client now accessId =>
    match w.stage client with
    | .checked k token r =>
      match c.renew Memory.recordAccess k token r now accessId w.memory with
      | (.ok tokens, memory) => (.refreshed now r tokens, { w with memory }.enter client .idle)
      | (.error stop, memory) => (.lost r stop, { w with memory }.enter client .idle)
    | _ => (.silent, w)

/-- Make moves one after another. -/
def run (c : TokenConfig) (w : World) : List Move → World
  | [] => w
  | m :: moves => run c (step c w m).2 moves

/-- What comes of moves one after another. -/
def log (c : TokenConfig) (w : World) : List Move → List Event
  | [] => []
  | m :: moves => (step c w m).1 :: log c (step c w m).2 moves

variable {c : TokenConfig}

/-- One more move. -/
theorem run_concat (w : World) (moves : List Move) (m : Move) :
    run c w (moves ++ [m]) = (step c (run c w moves) m).2 := by
  induction moves generalizing w with
  | nil => rfl
  | cons m' moves ih => exact ih (step c w m').2

/-- What comes of one more move. -/
theorem log_concat (w : World) (moves : List Move) (m : Move) :
    log c w (moves ++ [m]) = log c w moves ++ [(step c (run c w moves) m).1] := by
  induction moves generalizing w with
  | nil => rfl
  | cons m' moves ih => exact congrArg ((step c w m').1 :: ·) (ih (step c w m').2)

/-! ### The three moves of a refresh -/

@[simp] theorem enter_memory (w : World) (client : Nat) (stage : Stage) :
    (w.enter client stage).memory = w.memory := rfl

@[simp] theorem enter_stage_self (w : World) (client : Nat) (stage : Stage) :
    (w.enter client stage).stage client = stage := if_pos rfl

theorem enter_stage_of_ne (w : World) {client i : Nat} (stage : Stage) (h : i ≠ client) :
    (w.enter client stage).stage i = w.stage i := if_neg h

section Equations

variable {w : World} {client : Nat}

/-- An issue that answers. -/
theorem step_issue {now : Instant} {s : Subject} {draws : TokenDraws} {tokens : IssuedTokens}
    {memory : Memory}
    (h : c.issue Memory.recordAccess s now draws w.memory = (.ok tokens, memory)) :
    step c w (.issue now s draws) = (.issued now s tokens, { w with memory }) := by
  rw [step, h]

/-- A client that is idle may begin a refresh. -/
theorem step_read (h : w.stage client = .idle) (now : Instant) (access token : String) :
    step c w (.read client now access token) =
      match c.checkTokens access token now with
      | .ok (a, k) => (.silent, w.enter client (.read a k token (w.find k.sub)))
      | .error e => (.refused (.error e), w) := by
  rw [step, h]

/-- A client that has read a record may check it. -/
theorem step_check {a k : Claims} {token : String} {found : Option TokenRecord}
    (h : w.stage client = .read a k token found) (now : Instant) :
    step c w (.check client now) =
      match c.checkRecord a k token found now with
      | .ok r => (.silent, w.enter client (.checked k token r))
      | .error e => (.refused (.error e), w.enter client .idle) := by
  rw [step, h]

/-- A client that has checked a record may write to it. -/
theorem step_write {k : Claims} {token : String} {r : TokenRecord}
    (h : w.stage client = .checked k token r) (now : Instant) (accessId : Uuid) :
    step c w (.write client now accessId) =
      match c.renew Memory.recordAccess k token r now accessId w.memory with
      | (.ok tokens, memory) => (.refreshed now r tokens, { w with memory }.enter client .idle)
      | (.error stop, memory) => (.lost r stop, { w with memory }.enter client .idle) := by
  rw [step, h]

/-- The first two moves of a refresh for which all is in order leave the stores as they are. -/
theorem run_read_check {access token : String} {now : Instant} {a k : Claims} {r : TokenRecord}
    (h : w.stage client = .idle) (haccepts : c.Accepts access token now w.memory a k r) :
    let moves := [.read client now access token, .check client now]
    log c w moves = [.silent, .silent] ∧ (run c w moves).memory = w.memory ∧
      (run c w moves).stage client = .checked k token r := by
  have htokens : c.checkTokens access token now = .ok (a, k) :=
    c.checkTokens_eq_ok_iff.mpr ⟨haccepts.access, haccepts.refresh⟩
  have hrecord : c.checkRecord a k token (w.find k.sub) now = .ok r :=
    c.checkRecord_eq_ok_iff.mpr ⟨haccepts.found, haccepts.accessSubject, haccepts.refreshSubject,
      haccepts.stored, haccepts.alive⟩
  dsimp only [run, log]
  rw [step_read h, htokens]
  dsimp only
  rw [step_check (enter_stage_self _ _ _), hrecord]
  exact ⟨rfl, rfl, enter_stage_self _ _ _⟩

end Equations

/-- The answer to a refresh, if an event is one. -/
def Event.refresh? : Event → Option (Except (Stop AuthError) IssuedTokens)
  | .refreshed _ _ tokens => some (.ok tokens)
  | .lost _ stop | .refused stop => some (.error stop)
  | _ => none

/-- **The three moves of a client in a row are the refresh**: the same answer, once, and the same stores
after it. -/
theorem refresh_eq_moves (c : TokenConfig) (w : World) {client : Nat} (h : w.stage client = .idle)
    (access token : String) (now : Instant) (accessId : Uuid) :
    let moves := [.read client now access token, .check client now, .write client now accessId]
    ((log c w moves).filterMap Event.refresh?, (run c w moves).memory) =
      ([(c.refresh Memory.recordAccess access token now accessId w.memory).1],
        (c.refresh Memory.recordAccess access token now accessId w.memory).2) := by
  dsimp only [log, run]
  rw [TokenConfig.refresh_eq, step_read h]
  cases c.checkTokens access token now with
  | error e =>
    have hcheck : step c w (.check client now) = (.silent, w) := by rw [step, h]
    have hwrite : step c w (.write client now accessId) = (.silent, w) := by rw [step, h]
    dsimp only
    rw [hcheck, hwrite]
    rfl
  | ok claims =>
    obtain ⟨a, k⟩ := claims
    dsimp only
    rw [step_check (enter_stage_self _ _ _), World.find]
    cases c.checkRecord a k token (w.memory.records.find k.sub) now with
    | error e =>
      dsimp only
      rw [step, enter_stage_self]
      rfl
    | ok r =>
      dsimp only
      rw [step_write (enter_stage_self _ _ _), enter_memory, enter_memory]
      cases c.renew Memory.recordAccess k token r now accessId w.memory with
      | mk result memory =>
        cases result with
        | ok tokens => rfl
        | error stop => rfl

/-! ### What a move does to the record of a subject -/

/-- An event writes the record of a subject, or deletes it. -/
def Event.concerns (s : String) : Event → Prop
  | .issued _ x _ => x.id = s
  | .revoked x _ => x = s
  | .refreshed _ read _ => read.subject = s
  | _ => False

/-- What an event says about the record of a subject before the move and after it. -/
inductive Effect (c : TokenConfig) (s : String) :
    Event → Option TokenRecord → Option TokenRecord → Prop where
  | issued {now expiry : Instant} {x : Subject} {draws : TokenDraws} {tokens : IssuedTokens}
      {found : Option TokenRecord} (hx : x.id = s)
      (hexpiry : now.add? c.refreshLifetime = some expiry)
      (hrecord : tokens.record = RecordStore.upserted found s
        (c.sealToken draws.nonce tokens.refreshToken) expiry now draws.recordId.render) :
      Effect c s (.issued now x tokens) found (some tokens.record)
  | refreshed {now expiry : Instant} {read r : TokenRecord} {tokens : IssuedTokens}
      (hread : read.subject = s) (hversion : r.version = read.version)
      (hexpiry : now.add? c.refreshLifetime = some expiry)
      (hrecord : tokens.record = RecordStore.extended r expiry now) :
      Effect c s (.refreshed now read tokens) (some r) (some tokens.record)
  | revoked (deleted : Bool) (found : Option TokenRecord) :
      Effect c s (.revoked s deleted) found none
  | other {e : Event} (h : ¬ e.concerns s) (found : Option TokenRecord) : Effect c s e found found

/-- An event that concerns nobody leaves the record of whomever alone. -/
theorem Effect.of_memory_eq {s : String} {e : Event} {w w' : World} (h : ¬ e.concerns s)
    (hmemory : w'.memory = w.memory) : Effect c s e (w.find s) (w'.find s) := by
  have hfind : w'.find s = w.find s := congrArg (fun m => m.records.find s) hmemory
  rw [hfind]
  exact .other h _

/-- **What a move can do** to the record of a subject. -/
theorem step_effect (c : TokenConfig) (w : World) (m : Move) (s : String) :
    Effect c s (step c w m).1 (w.find s) ((step c w m).2.find s) := by
  cases m with
  | issue now x draws =>
    rw [step, TokenConfig.issue_eq]
    cases hexpiries : c.expiries? now with
    | none => exact .of_memory_eq id rfl
    | some expiries =>
      obtain ⟨-, hexpiry⟩ := c.expiries?_eq_some_iff.mp hexpiries
      dsimp only [World.find]
      rw [RecordStore.find_upsert]
      by_cases hx : x.id = s
      · subst hx
        rw [if_pos rfl]
        exact .issued rfl hexpiry rfl
      · rw [if_neg (Ne.symm hx)]
        refine .other ?_ _
        exact hx
  | revoke x =>
    dsimp only [step, World.find]
    rw [RecordStore.find_delete]
    by_cases hx : x = s
    · subst hx
      rw [if_pos rfl]
      exact .revoked _ _
    · rw [if_neg (Ne.symm hx)]
      refine .other ?_ _
      exact hx
  | read client now access token =>
    rw [step]
    split
    · split <;> exact .of_memory_eq id rfl
    · exact .of_memory_eq id rfl
  | check client now =>
    rw [step]
    split
    · split <;> exact .of_memory_eq id rfl
    · exact .of_memory_eq id rfl
  | write client now accessId =>
    rw [step]
    split
    next k token read hstage =>
      cases hrenew : c.renew Memory.recordAccess k token read now accessId w.memory with
      | mk result memory =>
        cases result with
        | ok tokens =>
          obtain ⟨r, accessExpiry, expiry, hexpiries, hfound, hversion, rfl, rfl⟩ :=
            TokenConfig.of_renew_eq_ok hrenew
          obtain ⟨-, hexpiry⟩ := c.expiries?_eq_some_iff.mp hexpiries
          dsimp only [World.find, World.enter]
          rw [RecordStore.find_write]
          by_cases hread : read.subject = s
          · rw [if_pos hread.symm, ← hread, hfound]
            exact .refreshed rfl hversion hexpiry rfl
          · rw [if_neg (Ne.symm hread)]
            refine .other ?_ _
            exact hread
        | error stop =>
          obtain ⟨rfl, -⟩ := TokenConfig.of_renew_eq_error hrenew
          exact .of_memory_eq id rfl
    · exact .of_memory_eq id rfl

/-! ### A refresh after an issue -/

/-- A client that reads and checks what was just issued gets to the last move of its refresh. -/
theorem issue_read_check {t accessExpiry expiry : Instant}
    (hexpiries : c.expiries? t = some (accessExpiry, expiry)) (haccess : 0 ≤ accessExpiry.second)
    (hrefresh : 0 ≤ expiry.second) (s : Subject) (draws : TokenDraws) (now : Instant)
    (hfuture : now.second ≤ expiry.second) (halive : now.before expiry = true) :
    ∃ first k m,
      let moves := [.read 0 now first.accessToken first.refreshToken, .check 0 now]
      c.issue Memory.recordAccess s t draws {} = (.ok first, m) ∧
      first.record = RecordStore.upserted none s.id (c.sealToken draws.nonce first.refreshToken)
        expiry t draws.recordId.render ∧
      m.records.find s.id = some first.record ∧
      log c { memory := m } moves = [.silent, .silent] ∧
      (run c { memory := m } moves).memory = m ∧
      (run c { memory := m } moves).stage 0 = .checked k first.refreshToken first.record := by
  obtain ⟨first, m, hfirst, -, -, hrecord, hfound⟩ :=
    TokenConfig.issue_of_expiries hexpiries s draws {}
  have hempty : Memory.records {} = {} := rfl
  rw [hempty, RecordStore.find_empty] at hrecord
  have hsubject : first.record.subject = s.id := by
    rw [hrecord]
    rfl
  obtain ⟨a, k, haccepts⟩ := TokenConfig.accepts_of_issue hfirst hsubject hexpiries haccess hrefresh
    now hfuture halive
  have hidle : ({ memory := m } : World).stage 0 = .idle := rfl
  exact ⟨first, k, m, hfirst, hrecord, hfound, run_read_check hidle haccepts⟩

/-- A client of the sample service that has read and checked what was just issued. -/
theorem sample_read_check :
    ∃ first k m,
      let moves := [.read 0 ⟨1, 0⟩ first.accessToken first.refreshToken, .check 0 ⟨1, 0⟩]
      sampleConfig.issue Memory.recordAccess sampleSubject ⟨0, 0⟩ sampleDraws {} = (.ok first, m) ∧
      first.record = RecordStore.upserted none sampleSubject.id
        (sampleConfig.sealToken sampleDraws.nonce first.refreshToken) ⟨4, 0⟩ ⟨0, 0⟩
        sampleDraws.recordId.render ∧
      m.records.find sampleSubject.id = some first.record ∧
      log sampleConfig { memory := m } moves = [.silent, .silent] ∧
      (run sampleConfig { memory := m } moves).memory = m ∧
      (run sampleConfig { memory := m } moves).stage 0 =
        .checked k first.refreshToken first.record :=
  issue_read_check (sample_expiries 0 (by decide)) (by decide) (by decide) sampleSubject sampleDraws
    ⟨1, 0⟩ (by decide) (by decide)

end Gatehouse.Interleaving

import Gatehouse.Auth.Failure
import Gatehouse.Auth.Record
import Gatehouse.Users.Account
import Gatehouse.Uuid

/-!
# Access to stores

The operations that services use on token records and on accounts, over a state `σ`. There are three
implementations: in memory, on a database whose connections are closed, and one that wraps another and
disturbs it once.

An operation that writes is given the time and the id that it may need.
-/

namespace Gatehouse

/-- The operations on token records. -/
structure RecordAccess (σ : Type) where
  find (subject : String) : Action σ AuthError (Option TokenRecord)
  upsert (subject : String) (token : Sealed) (expiresAt now : Instant) (id : String) :
    Action σ AuthError TokenRecord
  extend (subject : String) (expected : Int) (expiresAt now : Instant) :
    Action σ AuthError (Option TokenRecord)
  delete (subject : String) : Action σ AuthError Bool

/-- The operations on accounts. -/
structure UserAccess (σ : Type) where
  findByUsername (username : String) : Action σ UserError (Option StoredUser)
  findById (id : String) : Action σ UserError (Option StoredUser)
  taken (username : String) (email : Option String) : Action σ UserError Bool
  create (new : NewUser) (now : Instant) (id : String) : Action σ UserError User
  updateProfile (id : String) (update : ProfileUpdate) (now : Instant) :
    Action σ UserError (Option User)
  setPasswordHash (id hash : String) (now : Instant) : Action σ UserError Bool
  list (page : ListPage) : Action σ UserError (List User)

/-- Both kinds of operations over one state. -/
structure Access (σ : Type) where
  records : RecordAccess σ
  users : UserAccess σ

/-! ### In memory -/

/-- The stores in memory. -/
structure Memory where
  users : Directory := {}
  records : RecordStore := {}
  deriving DecidableEq, Repr

namespace Memory

/-- Read from the state. -/
def query {ε α : Type} (f : Memory → α) : Action Memory ε α := do return f (← get)

/-- Change the records. -/
def onRecords {ε α : Type} (f : RecordStore → α × RecordStore) : Action Memory ε α :=
  modifyGet fun m => let (a, records) := f m.records; (a, { m with records })

/-- Change the accounts. -/
def onUsers {ε α : Type} (f : Directory → α × Directory) : Action Memory ε α :=
  modifyGet fun m => let (a, users) := f m.users; (a, { m with users })

/-- Token records in memory. -/
def recordAccess : RecordAccess Memory where
  find subject := query fun m => m.records.find subject
  upsert subject token expiresAt now id := onRecords fun s => s.upsert subject token expiresAt now id
  extend subject expected expiresAt now := onRecords fun s => s.extend subject expected expiresAt now
  delete subject := onRecords fun s => s.delete subject

/-- Accounts in memory. -/
def userAccess : UserAccess Memory where
  findByUsername username := query fun m => m.users.findByUsername username
  findById id := query fun m => m.users.findById id
  taken username email := query fun m => m.users.taken username email
  create new now id := do
    match ← onUsers fun d => d.create new now id with
    | some user => return user
    | none => throw .alreadyExists
  updateProfile id update now := do
    match ← onUsers fun d => d.updateProfile id update now with
    | .updated user => return some user
    | .missing => return none
    | .emailTaken => throw .alreadyExists
  setPasswordHash id hash now := onUsers fun d => d.setPasswordHash id hash now
  list page := query fun m => m.users.list page

/-- Both stores in memory. -/
def access : Access Memory := ⟨recordAccess, userAccess⟩

end Memory

/-! ### On closed connections -/

namespace Closed

variable {σ : Type}

/-- Token records behind closed connections. -/
def recordAccess : RecordAccess σ where
  find _ := throw (.store .closed)
  upsert _ _ _ _ _ := throw (.store .closed)
  extend _ _ _ _ := throw (.store .closed)
  delete _ := throw (.store .closed)

/-- An operation on the account with an id. A text that is no identifier is the id of no account. -/
def byId {α : Type} (id : String) (none' : α) : Action σ UserError α :=
  match Uuid.parse? id with
  | some _ => throw (.store .closed)
  | none => return none'

/-- Accounts behind closed connections. -/
def userAccess : UserAccess σ where
  findByUsername _ := throw (.store .closed)
  findById id := byId id none
  taken _ _ := throw (.store .closed)
  create _ _ _ := throw (.store .closed)
  updateProfile id _ _ := byId id none
  setPasswordHash id _ _ := byId id false
  list _ := throw (.store .closed)

/-- Both stores behind closed connections. -/
def access : Access σ := ⟨recordAccess, userAccess⟩

end Closed

/-! ### Disturbed -/

/-- What another writer does right after the next read of a record. -/
inductive Race where
  /-- Extends the record to its own expiry. -/
  | bump (now : Instant)
  | delete
  /-- The read itself fails. -/
  | fails
  deriving DecidableEq, Repr

/-- What happens at the next use of an operation on accounts. -/
inductive Hook where
  /-- No username or email is taken. -/
  | free
  /-- No account has the id whose hash is set. -/
  | vanished
  /-- A lookup or listing fails. -/
  | fails (fault : StoreFault)
  deriving DecidableEq, Repr

/-- A state with disturbances that wait for their occasion. -/
structure Disturbed (σ : Type) where
  base : σ
  race : Option Race := none
  hook : Option Hook := none

namespace Disturbed

variable {σ ε α : Type}

/-- Run an operation of the undisturbed store. -/
def run (act : Action σ ε α) : Action (Disturbed σ) ε α := fun s =>
  let (result, base) := act s.base
  (result, { s with base })

/-- The race that is armed; it is armed no more. -/
def takeRace : Action (Disturbed σ) ε (Option Race) :=
  modifyGet fun s => (s.race, { s with race := none })

/-- The hook that is armed, if it fits; it is armed no more. -/
def takeHook (fits : Hook → Bool) : Action (Disturbed σ) ε (Option Hook) :=
  modifyGet fun s =>
    match s.hook with
    | some h => if fits h then (some h, { s with hook := none }) else (none, s)
    | none => (none, s)

/-- Token records under a race. -/
def recordAccess (a : RecordAccess σ) : RecordAccess (Disturbed σ) where
  find subject := do
    match ← takeRace with
    | none => run (a.find subject)
    | some .fails => throw (.store .closed)
    | some race =>
      let found ← run (a.find subject)
      match race, found with
      | .bump now, some r => let _ ← run (a.extend subject r.version r.expiresAt now)
      | .delete, _ => let _ ← run (a.delete subject)
      | _, _ => pure ()
      return found
  upsert subject token expiresAt now id := run (a.upsert subject token expiresAt now id)
  extend subject expected expiresAt now := run (a.extend subject expected expiresAt now)
  delete subject := run (a.delete subject)

/-- A lookup or listing, which may be hooked. -/
def lookup (act : Action σ UserError α) : Action (Disturbed σ) UserError α := do
  match ← takeHook (fun h => h matches .fails _) with
  | some (.fails fault) => throw (.store fault)
  | _ => run act

/-- Accounts with a hook. -/
def userAccess (a : UserAccess σ) : UserAccess (Disturbed σ) where
  findByUsername username := lookup (a.findByUsername username)
  findById id := lookup (a.findById id)
  taken username email := do
    match ← takeHook (· == .free) with
    | some _ => return false
    | none => run (a.taken username email)
  create new now id := run (a.create new now id)
  updateProfile id update now := run (a.updateProfile id update now)
  setPasswordHash id hash now := do
    match ← takeHook (· == .vanished) with
    | some _ => return false
    | none => run (a.setPasswordHash id hash now)
  list page := lookup (a.list page)

/-- Both stores with disturbances. -/
def access (a : Access σ) : Access (Disturbed σ) := ⟨recordAccess a.records, userAccess a.users⟩

end Disturbed

end Gatehouse

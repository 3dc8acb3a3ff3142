import Gatehouse.Auth.Seal
import Gatehouse.Crypto.Bcrypt

/-!
# What can go wrong

The causes for which an operation on credentials fails, with their wordings. Apart from these, an
operation that computes an expiry outside the calendar has no result at all: it `Stop`s by overflow.
-/

namespace Gatehouse

/-- Which check rejected a credential. -/
inductive AuthFailure where
  | expired
  | invalidToken
  | subjectMismatch
  | recordMissing
  | superseded
  | recordExpired
  deriving DecidableEq, Repr

/-- The wording of a failure. -/
def AuthFailure.reason : AuthFailure → String
  | .expired => "token expired"
  | .invalidToken => "invalid token"
  | .subjectMismatch => "subject mismatch"
  | .recordMissing => "no token record"
  | .superseded => "refresh token superseded"
  | .recordExpired => "token record expired"

/-- Why a store gives no answer. -/
inductive StoreFault where
  | rowNotFound
  | closed
  | timedOut
  deriving DecidableEq, Repr

/-- The wording of a store's fault. -/
def StoreFault.message : StoreFault → String
  | .rowNotFound => "no rows returned by a query that expected to return at least one row"
  | .closed => "attempted to acquire a connection on a closed pool"
  | .timedOut => "pool timed out while waiting for an open connection"

/-- Why an operation on credentials fails. -/
inductive AuthError where
  | credential
  | authentication (failure : AuthFailure)
  | concurrentModification
  | encryption (fault : Sealed.Fault)
  | token (detail : String)
  | store (fault : StoreFault)
  | internal (detail : String)
  deriving DecidableEq, Repr

/-- The name of an error's kind. -/
def AuthError.kind : AuthError → String
  | .credential => "CredentialError"
  | .authentication _ => "AuthenticationFailed"
  | .concurrentModification => "ConcurrentModification"
  | .encryption _ => "EncryptionFailure"
  | .token _ => "TokenError"
  | .store _ => "DbError"
  | .internal _ => "Internal"

/-- The wording of an error. -/
def AuthError.message : AuthError → String
  | .credential => "Invalid credentials"
  | .authentication failure => "Authentication failed: " ++ failure.reason
  | .concurrentModification => "Token record was modified concurrently"
  | .encryption fault => "Encryption failure: " ++ fault.message
  | .token detail => "Token error: " ++ detail
  | .store fault => "Database error: " ++ fault.message
  | .internal detail => "Internal error: " ++ detail

/-- Why an operation on accounts fails. -/
inductive UserError where
  | alreadyExists
  | store (fault : StoreFault)
  deriving DecidableEq, Repr

/-- The name of an error's kind. -/
def UserError.kind : UserError → String
  | .alreadyExists => "AlreadyExists"
  | .store _ => "DbError"

/-- The wording of an error. -/
def UserError.message : UserError → String
  | .alreadyExists => "User already exists"
  | .store fault => "Database error: " ++ fault.message

/-- How an operation ends without a result. -/
inductive Stop (ε : Type) where
  /-- For a cause. -/
  | error (e : ε)
  /-- Because an expiry lies outside the calendar. -/
  | overflow
  deriving DecidableEq, Repr

/-- Change the cause. -/
def Stop.mapError {ε ε' : Type} (f : ε → ε') : Stop ε → Stop ε'
  | .error e => .error (f e)
  | .overflow => .overflow

/-- An operation on a state `σ` that may fail. -/
abbrev Action (σ ε α : Type) := ExceptT ε (StateM σ) α

namespace Action

variable {σ ε ε' α : Type}

/-- Fail. -/
def fail (e : ε) : Action σ ε α := throw e

/-- Fail for a cause. -/
def stop (e : ε) : Action σ (Stop ε) α := throw (.error e)

/-- A computation that does not look at the state. -/
def ofExcept : Except ε α → Action σ ε α
  | .ok a => pure a
  | .error e => throw e

/-- Change the error. -/
def mapError (f : ε → ε') (act : Action σ ε α) : Action σ ε' α := ExceptT.adapt f act

/-- An operation that may not overflow, among those that may. -/
def lift (act : Action σ ε α) : Action σ (Stop ε) α := act.mapError .error

/-- A value that may lie outside the calendar. -/
def ofCalendar : Option α → Action σ (Stop ε) α
  | some a => pure a
  | none => throw .overflow

end Action

/-! ### Passwords -/

/-- Hash a password for storage. -/
def hashPassword (cost : Nat) (salt : Crypto.Bcrypt.Salt) (password : String) :
    Except AuthError String :=
  (Crypto.Bcrypt.hash cost salt password).mapError fun e => .internal ("bcrypt hash: " ++ e.message)

/-- Whether a password has a stored hash. -/
def verifyPassword (password hash : String) : Except AuthError Bool :=
  (Crypto.Bcrypt.verify password hash).mapError fun e => .internal ("bcrypt verify: " ++ e.message)

end Gatehouse

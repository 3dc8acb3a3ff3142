import Gatehouse.Auth.Lifecycle
import Gatehouse.Server.Refusal

/-!
# Servers

A server has its stores, secrets and limits. Its services are operations on the state of the stores; a
service is given the time, and what it needs of random draws, as a `Moment`.
-/

namespace Gatehouse

/-- A server over stores with state `σ`. -/
structure Server (σ : Type) where
  access : Access σ
  tokens : TokenConfig
  /-- The most accounts that one listing reads. -/
  scanLimit : Nat
  /-- The cost at which passwords are hashed. -/
  hashCost : Nat

/-- The time at which a request is answered, and what is drawn at random for it. -/
structure Moment where
  now : Instant
  correlation : Uuid
  userId : Uuid
  salt : Crypto.Bcrypt.Salt
  tokens : TokenDraws

/-- A service: an operation that is refused, or has no result because an expiry lies outside the
calendar. -/
abbrev Service (σ α : Type) := Action σ (Stop Refusal) α

namespace Service

variable {σ α : Type}

/-- Refuse. -/
def refuse (r : Refusal) : Service σ α := Action.stop r

/-- Refuse, or go on. -/
def ofExcept : Except Refusal α → Service σ α
  | .ok a => pure a
  | .error r => refuse r

/-- An operation on accounts. -/
def onUsers (act : Action σ UserError α) : Service σ α := act.mapError fun e => .error (.ofUserError e)

/-- An operation on token records. -/
def onRecords (act : Action σ AuthError α) : Service σ α :=
  act.mapError fun e => .error (.ofAuthError e)

/-- An operation on tokens. -/
def onTokens (act : Action σ (Stop AuthError) α) : Service σ α :=
  act.mapError (Stop.mapError Refusal.ofAuthError)

/-- A computation on credentials. -/
def onCredentials (result : Except AuthError α) : Service σ α :=
  ofExcept (result.mapError Refusal.ofAuthError)

end Service

/-- Whoever bears these claims is an admin. -/
def Claims.isAdmin (c : Claims) : Bool := c.role = adminRole

/-- The refusal of what only admins may do. -/
def Refusal.adminRequired : Refusal := .forbidden "Admin role required"

/-- Go on only for an admin. -/
def Service.requireAdmin {σ : Type} (caller : Claims) : Service σ Unit :=
  if caller.isAdmin then pure () else Service.refuse .adminRequired

/-- The fewest characters of a password. -/
def minPasswordLength : Nat := 8

/-- A new password is long enough. -/
def checkNewPassword (password : String) : Except Refusal Unit :=
  if password.length < minPasswordLength then
    .error (.validation "Password must be at least 8 characters")
  else .ok ()

/-- An email without blanks around it; a blank one is none. -/
def tidyEmail (email : Option String) : Option String := (email.map Text.trim).filter (· ≠ "")

end Gatehouse

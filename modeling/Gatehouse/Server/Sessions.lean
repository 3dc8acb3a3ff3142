import Gatehouse.Server.Basic
import Gatehouse.Server.Payload

/-!
# Sessions

Registering, logging in, and the services around a pair of tokens. A login fails in the same way for an
unknown username and for a wrong password.
-/

namespace Gatehouse

/-- An account as the subject of tokens. -/
def User.subject (u : User) : Subject := ⟨u.username, u.id, u.role⟩

/-- The fields by which a pair of tokens is answered. -/
def IssuedTokens.fields (i : IssuedTokens) : Json.Entries :=
  [("shortLivedToken", .string i.accessToken), ("longLivedToken", .string i.refreshToken),
    ("expiry", .string i.record.expiresAt.render), ("tokenType", .string "Bearer")]

/-- A pair of tokens as it is answered. -/
def IssuedTokens.toJson (i : IssuedTokens) : Json := .object i.fields

/-- An account that has just been made, with its first pair of tokens. -/
structure Registered where
  user : User
  tokens : IssuedTokens
  deriving DecidableEq, Repr

/-- A new account as it is answered. -/
def Registered.toJson (r : Registered) : Json := .object (("user", r.user.toJson) :: r.tokens.fields)

/-- A registration in order: the username not blank, the password long enough. Blanks around username,
name and email are dropped. -/
def Registration.tidy (r : Registration) : Except Refusal Registration := do
  let username := Text.trim r.username
  if username = "" then throw (.validation "Username is required")
  checkNewPassword r.password
  return ⟨username, r.password, Text.trim r.name, tidyEmail r.email⟩

namespace Server

variable {σ : Type}

/-- Mint a pair of tokens for an account. -/
def issueFor (s : Server σ) (m : Moment) (u : User) : Service σ IssuedTokens :=
  .onTokens (s.tokens.issue s.access.records u.subject m.now m.tokens)

/-- Mint a pair of tokens for a username with its password. -/
def login (s : Server σ) (m : Moment) (l : Login) : Service σ IssuedTokens := do
  match ← Service.onUsers (s.access.users.findByUsername l.username) with
  | none => Service.refuse .badCredentials
  | some found =>
    if ← Service.onCredentials (verifyPassword l.password found.passwordHash) then
      s.issueFor m found.user
    else Service.refuse .badCredentials

/-- Make an account, and mint its first pair of tokens. -/
def register (s : Server σ) (m : Moment) (r : Registration) : Service σ Registered := do
  let r ← Service.ofExcept r.tidy
  if ← Service.onUsers (s.access.users.taken r.username r.email) then
    Service.refuse (.conflict "Username or email already registered")
  else
    let hash ← Service.onCredentials (hashPassword s.hashCost m.salt r.password)
    let new : NewUser := ⟨r.username, r.name, r.email, hash⟩
    let user ← Service.onUsers (s.access.users.create new m.now m.userId.render)
    return ⟨user, ← s.issueFor m user⟩

/-- Exchange a pair of tokens for one with a new access token. -/
def refresh (s : Server σ) (m : Moment) (p : TokenPair) : Service σ IssuedTokens :=
  .onTokens (s.tokens.refresh s.access.records p.access p.refresh m.now m.tokens.accessId)

/-- Whether a refresh token is the live one of its subject. -/
def verify (s : Server σ) (m : Moment) (token : String) : Service σ Bool :=
  .onRecords (s.tokens.verifyRefreshToken s.access.records token m.now)

/-- Delete the caller's own token record, and say whether there was one. -/
def logout (s : Server σ) (caller : Claims) : Service σ Bool :=
  .onRecords (s.access.records.delete caller.sub)

/-- Delete a subject's token record, and say whether there was one. Only admins may do so to others. -/
def revoke (s : Server σ) (caller : Claims) (subject : String) : Service σ Bool :=
  if caller.sub ≠ subject && !caller.isAdmin then
    Service.refuse (.forbidden "Cannot revoke another user's tokens")
  else .onRecords (s.access.records.delete subject)

end Server

end Gatehouse

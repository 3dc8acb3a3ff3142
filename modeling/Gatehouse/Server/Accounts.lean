import Gatehouse.Query.Basic
import Gatehouse.Server.Basic
import Gatehouse.Server.Payload

/-!
# Accounts

Listing accounts by a query, looking at them one by one, and what users change about themselves.

A listing reads at most as many accounts as the server's limit. With neither filter nor sort the store
itself skips and limits; otherwise the query is answered over the accounts that were read.
-/

namespace Gatehouse

namespace Query

/-- The window that a query asks for, cut to a limit. -/
def window (q : Query) (scanLimit : Nat) : ListPage where
  offset := q.skip.getD 0
  limit :=
    match q.limit with
    | some (n + 1) => min (n + 1) scanLimit
    | _ => scanLimit

/-- The store may skip and limit for a query: it neither filters nor sorts. -/
def isWindow (q : Query) : Bool := q.filter.isNone && q.sort.isNone

end Query

/-- The refusal of what needs an account that is not there. -/
def Refusal.userNotFound : Refusal := .notFound "User not found"

/-- A profile in order: the name not blank. Blanks around name and email are dropped. -/
def ProfileWish.tidy (w : ProfileWish) : Except Refusal ProfileUpdate :=
  let name := Text.trim w.name
  if name = "" then .error (.validation "Name is required") else .ok ⟨name, tidyEmail w.email⟩

namespace Server

variable {σ : Type}

/-- The accounts that answer a query. -/
def listUsers (s : Server σ) (t : QueryText) : Service σ (List Json) := do
  let q ← Service.ofExcept (t.read.mapError fun _ => .badQuery)
  if q.isWindow then
    let users ← Service.onUsers (s.access.users.list (q.window s.scanLimit))
    return Query.apply { projection := q.projection } (users.map User.toJson)
  else
    let users ← Service.onUsers (s.access.users.list ⟨0, s.scanLimit⟩)
    return q.apply (users.map User.toJson)

/-- The account with an id. -/
def getUser (s : Server σ) (id : String) : Service σ User := do
  match ← Service.onUsers (s.access.users.findById id) with
  | some found => return found.user
  | none => Service.refuse .userNotFound

/-- Replace the caller's name and email. -/
def updateProfile (s : Server σ) (m : Moment) (caller : Claims) (w : ProfileWish) :
    Service σ User := do
  let update ← Service.ofExcept w.tidy
  match ← Service.onUsers (s.access.users.updateProfile caller.sub update m.now) with
  | some user => return user
  | none => Service.refuse .userNotFound

/-- A change of password is in order, as far as the stored hash does not matter. -/
def checkChange (c : PasswordChange) : Except Refusal Unit :=
  if c.old = c.new then .error (.validation "New password must differ from the old one")
  else checkNewPassword c.new

/-- Replace the caller's password, given the old one. -/
def changePassword (s : Server σ) (m : Moment) (caller : Claims) (c : PasswordChange) :
    Service σ User := do
  match ← Service.onUsers (s.access.users.findById caller.sub) with
  | none => Service.refuse .userNotFound
  | some found =>
    Service.ofExcept (checkChange c)
    if ← Service.onCredentials (verifyPassword c.old found.passwordHash) then
      let hash ← Service.onCredentials (hashPassword s.hashCost m.salt c.new)
      if ← Service.onUsers (s.access.users.setPasswordHash found.user.id hash m.now) then
        s.getUser found.user.id
      else Service.refuse .userNotFound
    else Service.refuse (.validation "Invalid old password")

end Server

end Gatehouse

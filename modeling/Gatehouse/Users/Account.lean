import Gatehouse.Instant.Printer
import Gatehouse.Json.Basic

/-!
# User accounts

Accounts are kept in the order in which they were created, each with the hash of its password. No two
have one username, and no two have one email. The first account is made an admin.
-/

namespace Gatehouse

/-- The role of the first account. -/
def adminRole : String := "admin"

/-- The role of every other account. -/
def userRole : String := "user"

/-- An account, without its password hash. -/
structure User where
  id : String
  username : String
  name : String
  email : Option String
  role : String
  createdAt : Instant
  updatedAt : Instant
  deriving DecidableEq, Repr

/-- An account as others see it. -/
def User.toJson (u : User) : Json :=
  .object [("id", .string u.id), ("username", .string u.username), ("name", .string u.name),
    ("email", u.email.elim .null .string), ("role", .string u.role),
    ("createdAt", .string u.createdAt.render), ("updatedAt", .string u.updatedAt.render)]

/-- An account with its password hash. -/
structure StoredUser where
  user : User
  passwordHash : String
  deriving DecidableEq, Repr

/-- What is needed to create an account. -/
structure NewUser where
  username : String
  name : String
  email : Option String
  passwordHash : String
  deriving DecidableEq, Repr

/-- What users may change about themselves. -/
structure ProfileUpdate where
  name : String
  email : Option String
  deriving DecidableEq, Repr

/-- A window over the accounts. -/
structure ListPage where
  offset : Nat
  limit : Nat
  deriving DecidableEq, Repr

/-- The accounts, oldest first. -/
structure Directory where
  users : List StoredUser := []
  deriving DecidableEq, Repr

namespace Directory

/-- The account with a username. -/
def findByUsername (d : Directory) (username : String) : Option StoredUser :=
  d.users.find? fun u => u.user.username = username

/-- The account with an id. -/
def findById (d : Directory) (id : String) : Option StoredUser :=
  d.users.find? fun u => u.user.id = id

/-- An account has a username, or an email if one is given. -/
def taken (d : Directory) (username : String) (email : Option String) : Bool :=
  d.users.any fun u => u.user.username = username || (email.isSome && u.user.email = email)

/-- Add an account, unless its username or email is taken. -/
def create (d : Directory) (new : NewUser) (now : Instant) (id : String) :
    Option User × Directory :=
  if d.taken new.username new.email then (none, d)
  else
    let role := if d.users.isEmpty then adminRole else userRole
    let user : User := ⟨id, new.username, new.name, new.email, role, now, now⟩
    (some user, ⟨d.users ++ [⟨user, new.passwordHash⟩]⟩)

/-- Change the first account with an id. -/
def modify (f : StoredUser → StoredUser) (id : String) : List StoredUser → List StoredUser
  | [] => []
  | u :: us => if u.user.id = id then f u :: us else u :: modify f id us

/-- An account other than the one with an id has this email. -/
def emailTakenByOther (d : Directory) (id : String) (email : Option String) : Bool :=
  email.isSome && d.users.any fun u => u.user.id ≠ id && u.user.email = email

/-- The outcome of a change of profile. -/
inductive ProfileOutcome where
  | updated (u : User)
  | missing
  | emailTaken
  deriving DecidableEq, Repr

/-- Replace name and email of an account. That the email is taken is found before the account is
looked for. -/
def updateProfile (d : Directory) (id : String) (update : ProfileUpdate) (now : Instant) :
    ProfileOutcome × Directory :=
  if d.emailTakenByOther id update.email then (.emailTaken, d)
  else match d.findById id with
  | none => (.missing, d)
  | some u =>
    let changed : User := { u.user with name := update.name, email := update.email, updatedAt := now }
    (.updated changed, ⟨modify (fun u => { u with user := changed }) id d.users⟩)

/-- Replace the password hash of an account, and say whether there is one. -/
def setPasswordHash (d : Directory) (id hash : String) (now : Instant) : Bool × Directory :=
  match d.findById id with
  | none => (false, d)
  | some _ =>
    (true, ⟨modify (fun u => ⟨{ u.user with updatedAt := now }, hash⟩) id d.users⟩)

/-- The accounts in a window. -/
def list (d : Directory) (page : ListPage) : List User :=
  ((d.users.drop page.offset).take page.limit).map (·.user)

end Directory

end Gatehouse

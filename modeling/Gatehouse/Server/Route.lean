import Gatehouse.Http.Message

/-!
# Routes

The paths that a server knows, and the method that each serves. A path is matched as it stands, its
last part under `/users/` apart, which is the id of an account. Some routes are guarded: only whoever
bears a valid access token gets through to them.
-/

namespace Gatehouse

/-- The methods that are served. Whoever serves `GET` serves `HEAD` too. -/
inductive Verb where
  | get
  | post
  | put
  deriving DecidableEq, Repr

namespace Verb

/-- The names of the methods. -/
def methods : Verb → List String
  | .get => ["GET", "HEAD"]
  | .post => ["POST"]
  | .put => ["PUT"]

/-- A method is served. -/
def serves (v : Verb) (method : String) : Bool := v.methods.contains method

/-- The list of methods as a header gives it. -/
def allow (v : Verb) : String := ",".intercalate v.methods

end Verb

/-- The routes for everybody. -/
inductive OpenRoute where
  | health
  | register
  | login
  | refresh
  deriving DecidableEq, Repr

/-- The routes for bearers of an access token. -/
inductive GuardedRoute where
  | verify
  | revoke
  | logout
  | claims
  | users
  | ownAccount
  | ownProfile
  | ownPassword
  /-- The account with an id, which is percent-encoded. -/
  | account (id : String)
  deriving DecidableEq, Repr

/-- The routes. -/
inductive Route where
  | free (r : OpenRoute)
  | guarded (r : GuardedRoute)
  deriving DecidableEq, Repr

/-- The method that an open route serves. -/
def OpenRoute.verb : OpenRoute → Verb
  | .health => .get
  | .register | .login | .refresh => .post

/-- The method that a guarded route serves. -/
def GuardedRoute.verb : GuardedRoute → Verb
  | .verify | .revoke | .logout => .post
  | .claims | .users | .ownAccount | .account _ => .get
  | .ownProfile | .ownPassword => .put

namespace Route

/-- The method that a route serves. -/
def verb : Route → Verb
  | .free r => r.verb
  | .guarded r => r.verb

/-- The path of every account. -/
def accountPath : List Char := "/users/".toList

/-- The id at the end of an account's path: not empty, and without a slash. -/
def accountId? (path : String) : Option String :=
  let id := path.toList.drop accountPath.length
  if accountPath.isPrefixOf path.toList && !id.isEmpty && !id.contains '/' then
    some (String.ofList id)
  else none

/-- The route of a path. -/
def ofPath? (path : String) : Option Route :=
  match path with
  | "/health" => some (.free .health)
  | "/auth/register" => some (.free .register)
  | "/auth/login" => some (.free .login)
  | "/auth/refresh" => some (.free .refresh)
  | "/auth/verify" => some (.guarded .verify)
  | "/auth/revoke" => some (.guarded .revoke)
  | "/auth/logout" => some (.guarded .logout)
  | "/auth/me" => some (.guarded .claims)
  | "/users" => some (.guarded .users)
  | "/users/me" => some (.guarded .ownAccount)
  | "/users/me/profile" => some (.guarded .ownProfile)
  | "/users/me/change-password" => some (.guarded .ownPassword)
  | path => (accountId? path).map fun id => .guarded (.account id)

end Route

end Gatehouse

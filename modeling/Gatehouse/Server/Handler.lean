import Gatehouse.Http.Form
import Gatehouse.Http.MediaType
import Gatehouse.Server.Accounts
import Gatehouse.Server.Route
import Gatehouse.Server.Sessions

/-!
# Answering requests

`Server.handle` answers a request. A question for options is answered at once. Any other is answered
with a correlation id, which is the caller's own if that is readable and not blank: on an open route, by
the route; otherwise the bearer is checked first, whether or not there is such a route.

What a route needs of the request is read before it is asked who may use it.
-/

namespace Gatehouse

open Http (Headers Request Response)

/-- How a request is answered on its way through a server: refused, answered early, or not at all. -/
abbrev Handler (σ α : Type) := Action σ (Stop Response) α

namespace Handler

variable {σ α : Type}

/-- Answer at once. -/
def reply (r : Response) : Handler σ α := Action.stop r

/-- A service as part of an answer. -/
def ofService (act : Service σ α) : Handler σ α :=
  act.mapError (Stop.mapError Refusal.toResponse)

/-- Answer with what a service yields. -/
def answer (toJson : α → Json) (act : Service σ α) : Handler σ Response := do
  return .json 200 (toJson (← ofService act))

/-- A value that the request must have. -/
def need : Except Response α → Handler σ α
  | .ok a => pure a
  | .error r => reply r

end Handler

/-! ### What requests hold -/

namespace RequestReader

/-- The most bytes of a body. -/
def maxBodySize : Nat := 2097152

/-- The body is declared as JSON. -/
def isJson (r : Request) : Bool :=
  ((r.headers.readable? "content-type").bind Http.MediaType.parse?).any Http.MediaType.isJson

/-- The payload in the body. -/
def payload {α : Type} (shape : Shape α) (r : Request) : Except Response α :=
  if !isJson r then .error (.plain 415)
  else if maxBodySize < r.body.length then .error (.plain 413)
  else match shape.read (Json.Token.ofBytes r.body) with
  | .ok a => .ok a
  | .error .malformed => .error (.plain 400)
  | .error .misshapen => .error (.plain 422)

/-- The value of a parameter that is given at most once, under any of some names. -/
def parameter (form : List (String × String)) (names : List String) :
    Except Response (Option String) :=
  match form.filter fun p => names.contains p.1 with
  | [] => .ok none
  | [p] => .ok (some p.2)
  | _ => .error (.plain 400)

/-- The query in the target. -/
def query (r : Request) : Except Response QueryText := do
  let form := Http.Form.parse r.query
  return {
    filter := ← parameter form ["filter"]
    sort := ← parameter form ["sort"]
    fields := ← parameter form ["fields", "select"]
    limit := ← parameter form ["limit"]
    skip := ← parameter form ["skip"] }

/-- The id of an account, decoded. -/
def accountId (id : String) : Except Response String :=
  match Http.decodeSegment? id with
  | some id => .ok id
  | none => .error (.plain 400)

/-- The token that the request bears. -/
def bearer (r : Request) : Except Refusal String :=
  match r.headers.readable? "authorization" with
  | none => .error (.unauthorized "Missing authorization header")
  | some value =>
    let scheme := "Bearer ".toList
    if scheme.isPrefixOf value.toList then .ok (String.ofList (value.toList.drop scheme.length))
    else .error (.unauthorized "Invalid authorization scheme")

/-- The name of the header with the correlation id. -/
def correlationHeader : String := "x-correlation-id"

/-- The caller's own correlation id. -/
def correlation? (r : Request) : Option String :=
  (r.headers.readable? correlationHeader).filter fun value => !Text.isBlankText value

end RequestReader

/-- The claims as they are answered to their bearer. -/
def Claims.toAnswer (c : Claims) : Json :=
  .object [("subject", .string c.sub), ("username", .string c.username), ("role", .string c.role),
    ("expiresAt", Json.ofInt c.expiresAt)]

namespace Server

variable {σ : Type}

/-- The version of the server. -/
def version : String := "0.1.0"

/-- The answer of a server that is well. -/
def health : Json := .object [("status", .string "ok"), ("version", .string version)]

/-- An answer with one truth value. -/
def truth (name : String) (b : Bool) : Json := .object [(name, .bool b)]

open Handler (answer need ofService reply)

/-! ### Routes -/

/-- Answer on an open route. -/
def answerOpen (s : Server σ) (m : Moment) (r : Request) : OpenRoute → Handler σ Response
  | .health => return .json 200 health
  | .register => do
    answer Registered.toJson (s.register m (← need (RequestReader.payload Registration.shape r)))
  | .login => do
    answer IssuedTokens.toJson (s.login m (← need (RequestReader.payload Login.shape r)))
  | .refresh => do
    answer IssuedTokens.toJson (s.refresh m (← need (RequestReader.payload TokenPair.shape r)))

/-- The claims of the access token that a request bears. -/
def authenticate (s : Server σ) (m : Moment) (r : Request) : Except Refusal Claims := do
  let token ← RequestReader.bearer r
  (s.tokens.verifyAccessToken token m.now).mapError fun _ => .unauthorized "Invalid or expired token"

/-- Answer on a guarded route. -/
def answerGuarded (s : Server σ) (m : Moment) (r : Request) (caller : Claims) :
    GuardedRoute → Handler σ Response
  | .verify => do
    let token ← need (RequestReader.payload (textShape "longLivedToken") r)
    ofService (Service.requireAdmin caller)
    answer (truth "valid") (s.verify m token)
  | .revoke => do
    let subject ← need (RequestReader.payload (textShape "subject") r)
    answer (truth "deleted") (s.revoke caller subject)
  | .logout => answer (truth "deleted") (s.logout caller)
  | .claims => return .json 200 caller.toAnswer
  | .users => do
    let text ← need (RequestReader.query r)
    ofService (Service.requireAdmin caller)
    answer Json.array (s.listUsers text)
  | .ownAccount => answer User.toJson (s.getUser caller.sub)
  | .ownProfile => do
    let wish ← need (RequestReader.payload ProfileWish.shape r)
    answer User.toJson (s.updateProfile m caller wish)
  | .ownPassword => do
    let change ← need (RequestReader.payload PasswordChange.shape r)
    answer User.toJson (s.changePassword m caller change)
  | .account id => do
    let id ← need (RequestReader.accountId id)
    ofService (Service.requireAdmin caller)
    answer User.toJson (s.getUser id)

/-- Answer a request by its route. -/
def route (s : Server σ) (m : Moment) (r : Request) : Handler σ Response :=
  match Route.ofPath? r.path with
  | some (.free f) => if f.verb.serves r.method then s.answerOpen m r f else return .empty 405
  | some (.guarded g) => do
    let caller ← ofService (Service.ofExcept (s.authenticate m r))
    if g.verb.serves r.method then s.answerGuarded m r caller g else return .empty 405
  | none => do
    let _ ← ofService (Service.ofExcept (s.authenticate m r))
    return .empty 404

/-! ### Headers -/

/-- The headers that let pages of any origin read an answer. -/
def sharing : Headers :=
  [⟨"access-control-allow-origin", "*"⟩,
    ⟨"vary", "origin, access-control-request-method, access-control-request-headers"⟩]

/-- The headers that let pages of any origin ask with any method and any header. -/
def sharingOptions : Headers :=
  [⟨"access-control-allow-methods", "*"⟩, ⟨"access-control-allow-headers", "*"⟩]

/-- On a path that serves another method, the methods that it serves. -/
def allowance (r : Request) : Headers :=
  match Route.ofPath? r.path with
  | some route => if route.verb.serves r.method then [] else [⟨"allow", route.verb.allow⟩]
  | none => []

/-- The correlation id of an answer. -/
def correlation (m : Moment) (r : Request) : Headers :=
  [⟨RequestReader.correlationHeader, (RequestReader.correlation? r).getD m.correlation.render⟩]

/-- An answer to a request with all its headers; to `HEAD` without its body. -/
def finish (m : Moment) (r : Request) (response : Response) : Response :=
  let response := response.withHeaders (correlation m r ++ allowance r ++ sharing)
  if r.method = "HEAD" then response.withoutBody else response

/-- The answer to a question for options. -/
def options (r : Request) : Response :=
  (Response.empty 200).withHeaders (allowance r ++ sharing ++ sharingOptions)

/-- Answer a request. There is no answer when an expiry lies outside the calendar. -/
def handle (s : Server σ) (m : Moment) (r : Request) : StateM σ (Option Response) :=
  if r.method = "OPTIONS" then return some (options r)
  else do
    match ← (s.route m r).run with
    | .ok response => return some (finish m r response)
    | .error (.error response) => return some (finish m r response)
    | .error .overflow => return none

end Server

end Gatehouse

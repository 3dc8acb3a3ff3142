import Gatehouse.Proofs.Server.Services

/-!
# Answers

How handlers answer over given stores, without the monad they are written in; and which answers hold a token
(`Http.Response.token?`). A refusal holds none, whatever it refuses, nor does an answer about accounts.
-/

namespace Gatehouse

open Http (Request Response)

/-! ### Tokens in answers -/

/-- The field under which a token of a kind is answered. -/
def TokenKind.field : TokenKind → String
  | .access => "shortLivedToken"
  | .refresh => "longLivedToken"

/-- The token of a kind in a pair. -/
def IssuedTokens.token (p : IssuedTokens) : TokenKind → String
  | .access => p.accessToken
  | .refresh => p.refreshToken

namespace Http.Response

/-- The token of a kind in a response. -/
def token? (kind : TokenKind) (response : Response) : Option String :=
  match response.body.bind (Json.field? kind.field) with
  | some (.string token) => some token
  | _ => none

/-- No token is in the response. -/
def TokenFree (response : Response) : Prop := ∀ kind, response.token? kind = none

theorem tokenFree_of_body_eq_none {response : Response} (h : response.body = none) : response.TokenFree := by
  intro kind
  rw [token?, h]
  rfl

theorem tokenFree_empty (status : Nat) : (empty status).TokenFree := tokenFree_of_body_eq_none rfl

theorem tokenFree_plain (status : Nat) : (plain status).TokenFree := tokenFree_of_body_eq_none rfl

theorem tokenFree_array (status : Nat) (items : List Json) : (json status (.array items)).TokenFree :=
  fun _ => rfl

/-- In an object tokens stand under their fields. -/
theorem tokenFree_object (status : Nat) {entries : Json.Entries}
    (h : ∀ kind : TokenKind, kind.field ∉ entries.map (·.1)) : (json status (.object entries)).TokenFree := by
  intro kind
  have hmissing := Assoc.hasKey_eq_false_iff.mpr (h kind)
  rw [Assoc.hasKey, Option.isSome_eq_false_iff, Option.isNone_iff_eq_none] at hmissing
  have hfield : (Json.object entries).field? kind.field = none := hmissing
  rw [token?, json, Option.bind_some, hfield]

theorem tokenFree_user (status : Nat) (u : User) : (json status u.toJson).TokenFree :=
  tokenFree_object status fun kind => by cases kind <;> simp [TokenKind.field]

theorem tokenFree_truth (status : Nat) (b : Bool) {name : String} (h : ∀ kind : TokenKind, kind.field ≠ name) :
    (json status (Server.truth name b)).TokenFree :=
  tokenFree_object status fun kind => by simpa using h kind

theorem tokenFree_refusal (e : Refusal) : e.toResponse.TokenFree :=
  tokenFree_object e.status fun kind => by cases kind <;> simp [TokenKind.field]

/-- A pair of tokens is answered with both. -/
theorem token?_issued (status : Nat) (p : IssuedTokens) (kind : TokenKind) :
    (json status p.toJson).token? kind = some (p.token kind) := by
  cases kind <;> rfl

theorem token?_registered (status : Nat) (r : Registered) (kind : TokenKind) :
    (json status r.toJson).token? kind = some (r.tokens.token kind) := by
  cases kind <;> rfl

/-- Finishing a response brings no token into it. -/
theorem token?_of_token?_finish {m : Moment} {r : Request} {response : Response} {kind : TokenKind}
    {token : String} (h : (Server.finish m r response).token? kind = some token) :
    response.token? kind = some token := by
  rw [Server.finish] at h
  split at h
  · exact absurd h (by simp [token?, withoutBody])
  · exact h

theorem TokenFree.finish {m : Moment} {r : Request} {response : Response} (h : response.TokenFree) :
    (Server.finish m r response).TokenFree := by
  intro kind
  cases htoken : (Server.finish m r response).token? kind with
  | none => rfl
  | some token => exact absurd (token?_of_token?_finish htoken) (by simp [h kind])

end Http.Response

/-! ### What handlers do -/

namespace Handler

variable {σ α : Type}

theorem answer_apply (toJson : α → Json) (act : Service σ α) (s : σ) :
    answer toJson act s =
      (((act s).1.mapError (Stop.mapError Refusal.toResponse)).map fun a => .json 200 (toJson a), (act s).2) := by
  rw [answer, Action.bind_pure_apply]
  rfl

theorem need_bind_apply (x : Except Response α) (f : α → Handler σ Response) (s : σ) :
    (need x >>= f) s = match x with
      | .ok a => f a s
      | .error response => (.error (.error response), s) := by
  rw [Action.bind_apply]
  cases x with
  | ok a => rfl
  | error response => rfl

theorem ofService_ofExcept_bind_apply (x : Except Refusal α) (f : α → Handler σ Response) (s : σ) :
    (ofService (Service.ofExcept x) >>= f) s = match x with
      | .ok a => f a s
      | .error e => (.error (.error e.toResponse), s) := by
  rw [Action.bind_apply]
  cases x with
  | ok a => rfl
  | error e => rfl

end Handler

/-! ### What requests hold -/

namespace Http.Headers

theorem first?_cons_self (name value : String) (headers : Headers) :
    first? (⟨name, value⟩ :: headers) name = some value := by
  rw [first?, List.find?_cons_of_pos (by simp)]
  rfl

/-- The bearer's header is found behind that of the body. -/
theorem first?_authorization (type value : String) :
    first? [⟨"content-type", type⟩, ⟨"authorization", value⟩] "authorization" = some value := by
  have hne : decide ("content-type".toLower = "authorization".toLower) = false := by decide +kernel
  rw [first?, List.find?_cons, hne]
  exact first?_cons_self "authorization" value []

end Http.Headers

namespace RequestReader

/-- A request that cannot be read is answered in plain text, with one of four statuses. -/
def Unreadable (response : Response) : Prop := ∃ status ∈ [400, 413, 415, 422], response = .plain status

theorem Unreadable.tokenFree {response : Response} (h : Unreadable response) : response.TokenFree := by
  obtain ⟨status, -, rfl⟩ := h
  exact Response.tokenFree_plain status

theorem unreadable_of_payload_eq_error {α : Type} {shape : Shape α} {r : Request} {response : Response}
    (h : payload shape r = .error response) : Unreadable response := by
  rw [payload] at h
  split at h
  · exact ⟨415, by simp, (Except.error.inj h).symm⟩
  split at h
  · exact ⟨413, by simp, (Except.error.inj h).symm⟩
  split at h
  · exact absurd h (by simp)
  · exact ⟨400, by simp, (Except.error.inj h).symm⟩
  · exact ⟨422, by simp, (Except.error.inj h).symm⟩

theorem unreadable_of_parameter_eq_error {form : List (String × String)} {names : List String}
    {response : Response} (h : parameter form names = .error response) : Unreadable response := by
  rw [parameter] at h
  split at h
  · exact absurd h (by simp)
  · exact absurd h (by simp)
  · exact ⟨400, by simp, (Except.error.inj h).symm⟩

theorem unreadable_of_query_eq_error {r : Request} {response : Response} (h : query r = .error response) :
    Unreadable response := by
  rcases of_bind_eq_error h with h | ⟨filter, -, h⟩
  · exact unreadable_of_parameter_eq_error h
  rcases of_bind_eq_error h with h | ⟨sort, -, h⟩
  · exact unreadable_of_parameter_eq_error h
  rcases of_bind_eq_error h with h | ⟨fields, -, h⟩
  · exact unreadable_of_parameter_eq_error h
  rcases of_bind_eq_error h with h | ⟨limit, -, h⟩
  · exact unreadable_of_parameter_eq_error h
  rcases of_bind_eq_error h with h | ⟨skip, -, h⟩
  · exact unreadable_of_parameter_eq_error h
  · exact absurd h (by simp [pure, Except.pure])

theorem unreadable_of_accountId_eq_error {id : String} {response : Response}
    (h : accountId id = .error response) : Unreadable response := by
  rw [accountId] at h
  split at h
  · exact absurd h (by simp)
  · exact ⟨400, by simp, (Except.error.inj h).symm⟩

/-- A body that is declared as JSON, and is neither too big nor of another shape, is read. -/
theorem payload_of_first? {α : Type} {shape : Shape α} {r : Request} {a : α}
    (htype : r.headers.first? "content-type" = some "application/json") (hsize : r.body.length ≤ maxBodySize)
    (hread : shape.read (Json.Token.ofBytes r.body) = .ok a) : payload shape r = .ok a := by
  have hjson : isJson r = true := by
    rw [isJson, Http.Headers.readable?, htype]
    decide +kernel
  rw [payload, hjson, if_neg (by decide), if_neg (Nat.not_lt.mpr hsize), hread]

/-! ### Bearers -/

theorem isReadable_append (a b : String) :
    Http.isReadable (a ++ b) = (Http.isReadable a && Http.isReadable b) := by
  rw [Http.isReadable, String.toList_append, List.all_append]
  rfl

theorem isReadable_encode (bytes : Crypto.Bytes) :
    Http.isReadable (Base64.encode Base64.urlSafe bytes) = true := by
  have hsymbols : Http.isReadable (String.ofList Base64.urlSafe.symbols) = true := by decide +kernel
  rw [Http.isReadable, String.toList_ofList] at hsymbols
  rw [Http.isReadable, Base64.encode, String.toList_ofList]
  refine List.all_eq_true.mpr fun c hc => ?_
  rcases Base64.mem_encodeChars hc with hc | hc
  · exact List.all_eq_true.mp hsymbols c hc
  · obtain rfl := hc
    decide

/-- A signed token can stand in a header. -/
theorem isReadable_sign (secret : String) (c : Claims) :
    Http.isReadable (SignedToken.sign secret c) = true := by
  have hdot : Http.isReadable "." = true := by decide
  simp only [SignedToken.sign, SignedToken.signWith, SignedToken.message, SignedToken.encodeText,
    SignedToken.signature, isReadable_append, isReadable_encode, hdot, Bool.and_self]

/-- A request bears the token that stands in its header after the scheme. -/
theorem bearer_of_first? {r : Request} {token : String}
    (h : r.headers.first? "authorization" = some ("Bearer " ++ token))
    (htoken : Http.isReadable token = true) : bearer r = .ok token := by
  have hscheme : Http.isReadable "Bearer " = true := by decide
  have hvalue : r.headers.readable? "authorization" = some ("Bearer " ++ token) := by
    rw [Http.Headers.readable?, h, Option.filter_some, isReadable_append, hscheme, htoken]
    rfl
  have hprefix : "Bearer ".toList.isPrefixOf ("Bearer " ++ token).toList = true := by
    rw [String.toList_append]
    exact List.isPrefixOf_iff_prefix.mpr (List.prefix_append _ _)
  rw [bearer, hvalue]
  dsimp only
  rw [if_pos hprefix, String.toList_append, List.drop_left, String.ofList_toList]

end RequestReader

namespace Server

/-- What comes of a request once its route is through with it. -/
def conclude (m : Moment) (r : Request) : Except (Stop Response) Response → Option Response
  | .ok response => some (finish m r response)
  | .error (.error response) => some (finish m r response)
  | .error .overflow => none

theorem handle_apply {σ : Type} (s : Server σ) (m : Moment) {r : Request} (h : r.method ≠ "OPTIONS") (mem : σ) :
    s.handle m r mem = (conclude m r (s.route m r mem).1, (s.route m r mem).2) := by
  rw [handle, if_neg h]
  change (match (s.route m r mem).1 with
    | .ok response => _
    | .error (.error response) => _
    | .error .overflow => _ : StateM σ (Option Response)) (s.route m r mem).2 = _
  rcases s.route m r mem with ⟨(_ | _) | _, _⟩ <;> rfl

/-- A question for options is answered at once. -/
theorem handle_options {σ : Type} (s : Server σ) (m : Moment) {r : Request} (h : r.method = "OPTIONS") (mem : σ) :
    s.handle m r mem = (some (options r), mem) := by
  rw [handle, if_pos h]
  rfl

/-- The request bears an access token that is valid and has not expired, with these claims. -/
def Bears (tokens : TokenConfig) (m : Moment) (r : Request) (caller : Claims) : Prop :=
  ∃ token, RequestReader.bearer r = .ok token ∧ tokens.verifyAccessToken token m.now = .ok caller

theorem authenticate_eq_ok_iff {σ : Type} {s : Server σ} {m : Moment} {r : Request} {caller : Claims} :
    s.authenticate m r = .ok caller ↔ Bears s.tokens m r caller := by
  have hauthenticate : s.authenticate m r = (RequestReader.bearer r).bind fun token =>
      (s.tokens.verifyAccessToken token m.now).mapError fun _ => .unauthorized "Invalid or expired token" := rfl
  have hverified (x : Except AuthFailure Claims) (e : Refusal) :
      (x.mapError fun _ => e) = .ok caller ↔ x = .ok caller := by
    cases x <;> simp [Except.mapError]
  rw [hauthenticate, bind_eq_ok_iff]
  simp only [hverified, Bears]

end Server

/-- The request asks for a route, by a method that the route serves. -/
structure Http.Request.Asks (r : Request) (route : Route) : Prop where
  path : Route.ofPath? r.path = some route
  method : route.verb.serves r.method = true

namespace Server

variable {σ : Type} {s : Server σ} {m : Moment} {r : Request}

/-- No route serves questions for options. -/
theorem method_ne_of_asks {route : Route} (h : r.Asks route) : r.method ≠ "OPTIONS" := by
  intro hoptions
  have hserves := h.method
  rw [hoptions] at hserves
  generalize route.verb = verb at hserves
  cases verb with
  | get | post | put => exact absurd hserves (by decide)

/-- Who asks for an open route is answered by it. -/
theorem handle_open {open' : OpenRoute} (h : r.Asks (.free open')) (mem : σ) :
    s.handle m r mem = (conclude m r (s.answerOpen m r open' mem).1, (s.answerOpen m r open' mem).2) := by
  have hroute : s.route m r = s.answerOpen m r open' := by
    rw [route, h.path]
    exact if_pos h.method
  rw [handle_apply s m (method_ne_of_asks h), hroute]

/-- Who asks for a guarded route, and bears an access token, is answered by it. -/
theorem handle_guarded {guarded : GuardedRoute} {caller : Claims} (h : r.Asks (.guarded guarded))
    (hbears : Bears s.tokens m r caller) (mem : σ) :
    s.handle m r mem =
      (conclude m r (s.answerGuarded m r caller guarded mem).1, (s.answerGuarded m r caller guarded mem).2) := by
  have hroute : s.route m r mem = s.answerGuarded m r caller guarded mem := by
    rw [route, h.path]
    change (Handler.ofService (Service.ofExcept (s.authenticate m r)) >>= _) mem = _
    rw [Handler.ofService_ofExcept_bind_apply, authenticate_eq_ok_iff.mpr hbears]
    exact congrFun (if_pos h.method) mem
  rw [handle_apply s m (method_ne_of_asks h), hroute]

end Server

end Gatehouse

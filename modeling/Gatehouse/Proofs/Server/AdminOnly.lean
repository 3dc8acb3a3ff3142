import Gatehouse.Proofs.Server.Refusals

/-!
# What only admins are told

Three routes are for admins: the listing, the accounts by their ids, and the question whether a refresh token
is alive. Whatever keeps a request from being answered there comes before anything that reads a store: the
bearer, what the route needs of the request, and the role. So to everybody else such a route gives an answer
that the stores have no part in (`Server.Refuses`), whatever the stores are made of and whatever is asked
(`Server.admin_routes_tell_others_nothing`).
-/

namespace Gatehouse

open Http (Headers Request Response)

/-- The routes that only admins may use. -/
def GuardedRoute.adminOnly : GuardedRoute → Bool
  | .verify | .users | .account _ => true
  | .revoke | .logout | .claims | .ownAccount | .ownProfile | .ownPassword => false

/-- Nothing is refused by status 200. -/
theorem Refusal.status_ne (e : Refusal) : e.toResponse.status ≠ 200 := by
  cases e <;> simp [toResponse, Response.json, status]

theorem RequestReader.Unreadable.status_ne {response : Response} (h : Unreadable response) :
    response.status ≠ 200 := by
  obtain ⟨status, hstatus, rfl⟩ := h
  rintro rfl
  exact absurd hstatus (by decide)

namespace Server

variable {σ α : Type}

/-- A handler refuses: the answer is the same in all states, it is an error, and the state stays. -/
def Refuses (act : Handler σ Response) : Prop :=
  ∃ response : Response, response.status ≠ 200 ∧ ∀ mem, act mem = (.error (.error response), mem)

namespace Refuses

/-- What the request must have is read first. -/
theorem need {x : Except Response α} {f : α → Handler σ Response}
    (hx : ∀ response, x = .error response → RequestReader.Unreadable response)
    (hf : ∀ a, Refuses (f a)) : Refuses (Handler.need x >>= f) := by
  cases x with
  | ok a =>
    obtain ⟨response, hstatus, happly⟩ := hf a
    refine ⟨response, hstatus, fun mem => ?_⟩
    rw [Handler.need_bind_apply]
    exact happly mem
  | error response =>
    refine ⟨response, (hx response rfl).status_ne, fun mem => ?_⟩
    rw [Handler.need_bind_apply]

/-- A check of the request comes before what depends on it. -/
theorem ofExcept {x : Except Refusal α} {f : α → Handler σ Response} (hf : ∀ a, x = .ok a → Refuses (f a)) :
    Refuses (Handler.ofService (Service.ofExcept x) >>= f) := by
  cases x with
  | ok a =>
    obtain ⟨response, hstatus, happly⟩ := hf a rfl
    refine ⟨response, hstatus, fun mem => ?_⟩
    rw [Handler.ofService_ofExcept_bind_apply]
    exact happly mem
  | error e =>
    refine ⟨e.toResponse, e.status_ne, fun mem => ?_⟩
    rw [Handler.ofService_ofExcept_bind_apply]

/-- Whoever is no admin gets no further. -/
theorem requireAdmin {caller : Claims} (h : caller.role ≠ adminRole) (f : Unit → Handler σ Response) :
    Refuses (Handler.ofService (Service.requireAdmin caller) >>= f) := by
  have hadmin : caller.isAdmin = false := decide_eq_false h
  refine ⟨Refusal.adminRequired.toResponse, Refusal.adminRequired.status_ne, fun mem => ?_⟩
  rw [Service.requireAdmin, hadmin, if_neg Bool.false_ne_true]
  rfl

end Refuses

variable (s : Server σ) {m : Moment} {r : Request} {route : GuardedRoute}

/-- The routes for admins refuse everybody else once the request is read. -/
theorem refuses_answerGuarded (hroute : route.adminOnly = true) {caller : Claims}
    (hother : caller.role ≠ adminRole) : Refuses (s.answerGuarded m r caller route) := by
  cases route with
  | verify =>
    refine .need (fun _ => RequestReader.unreadable_of_payload_eq_error) fun token => ?_
    exact .requireAdmin hother _
  | users =>
    refine .need (fun _ => RequestReader.unreadable_of_query_eq_error) fun text => ?_
    exact .requireAdmin hother _
  | account id =>
    refine .need (fun _ => RequestReader.unreadable_of_accountId_eq_error) fun id => ?_
    exact .requireAdmin hother _
  | revoke | logout | claims | ownAccount | ownProfile | ownPassword => exact absurd hroute (by decide)

/-- A request without an admin's access token is refused on the routes for admins. -/
theorem refuses_route (asks : r.Asks (.guarded route)) (hroute : route.adminOnly = true)
    (hother : ∀ caller, Bears s.tokens m r caller → caller.role ≠ adminRole) : Refuses (s.route m r) := by
  rw [Server.route, asks.path]
  refine .ofExcept fun caller hcaller => ?_
  have hserves : route.verb.serves r.method = true := asks.method
  rw [if_pos hserves]
  exact s.refuses_answerGuarded hroute (hother caller (authenticate_eq_ok_iff.mp hcaller))

/-- **On the routes for admins nobody else learns anything.** Of a request that bears no valid access token of
an admin, the answer is the same in every two states of the stores, it is no success, and neither state
changes. -/
theorem admin_routes_tell_others_nothing (s : Server σ) (m : Moment) {r : Request} {route : GuardedRoute}
    (asks : r.Asks (.guarded route)) (hroute : route.adminOnly = true)
    (hother : ∀ caller, Bears s.tokens m r caller → caller.role ≠ adminRole) (left right : σ) :
    ∃ response : Response, response.status ≠ 200 ∧ s.handle m r left = (some response, left) ∧
      s.handle m r right = (some response, right) := by
  obtain ⟨response, hstatus, happly⟩ := s.refuses_route asks hroute hother
  have hhandle (mem : σ) : s.handle m r mem = (some (finish m r response), mem) := by
    rw [handle_apply s m (method_ne_of_asks asks), happly]
    rfl
  refine ⟨finish m r response, ?_, hhandle left, hhandle right⟩
  rw [finish_status]
  exact hstatus

/-! ### A sample -/

/-- A sample listing by the bearer of a token. -/
def sampleListing (token : String) : Request where
  method := "GET"
  path := "/users"
  headers := [⟨"authorization", "Bearer " ++ token⟩]

/-- A user who is no admin bears a valid token, and learns nothing about the sample stores. -/
theorem sample_user_is_told_nothing :
    ∃ (token : String) (caller : Claims) (response : Response),
      Bears sampleConfig sampleMoment (sampleListing token) caller ∧ response.status ≠ 200 ∧
      (inMemory sampleConfig 10 4).handle sampleMoment (sampleListing token) {} = (some response, {}) ∧
      (inMemory sampleConfig 10 4).handle sampleMoment (sampleListing token) sampleCorrupted =
        (some response, sampleCorrupted) := by
  generalize htoken : sampleConfig.minted .access sampleSubject ⟨0, 0⟩ ⟨900, 0⟩ ⟨1⟩ = token
  have hbearer : RequestReader.bearer (sampleListing token) = .ok token := by
    refine RequestReader.bearer_of_first? ?_ (htoken ▸ RequestReader.isReadable_sign _ _)
    rw [sampleListing, Headers.first?, List.find?_cons_of_pos (by simp)]
    rfl
  have hexpiry : (⟨0, 0⟩ : Instant).add? (sampleConfig.lifetime .access) = some ⟨900, 0⟩ := by decide
  have hverify (k : Claims) : sampleConfig.verifyAccessToken token sampleMoment.now = .ok k ↔
      k = Claims.minted sampleSubject ⟨0, 0⟩ ⟨900, 0⟩ (Uuid.render ⟨1⟩) := by
    rw [← htoken, TokenConfig.verifyAccessToken, sampleConfig.verify_minted_eq_ok_iff .access hexpiry]
    exact ⟨fun h => h.2.2, fun h => ⟨by decide, fun _ => by decide, h⟩⟩
  have hother : ∀ caller, Bears sampleConfig sampleMoment (sampleListing token) caller →
      caller.role ≠ adminRole := by
    rintro caller ⟨token', hbearer', hcaller⟩
    obtain rfl : token = token' := Except.ok.inj (hbearer.symm.trans hbearer')
    obtain rfl := (hverify caller).mp hcaller
    decide
  have hasks : (sampleListing token).Asks (.guarded .users) := ⟨rfl, rfl⟩
  obtain ⟨response, hstatus, hleft, hright⟩ := admin_routes_tell_others_nothing (inMemory sampleConfig 10 4)
    sampleMoment hasks rfl hother {} sampleCorrupted
  exact ⟨token, _, response, ⟨token, hbearer, (hverify _).mpr rfl⟩, hstatus, hleft, hright⟩

end Server

end Gatehouse

import Gatehouse.Proofs.Server.Outcome
import Gatehouse.Proofs.Server.Totality
import Gatehouse.Proofs.Uuid

/-!
# Correlation ids in answers

Whatever a route replies, at its end or early, has no header but that of its content's type (`Response.Bare`),
so the correlation id that is added on the way out is the only one: the caller's own if that is readable and not
blank, and else the identifier that was drawn for the request (`Response.Correlates`). A question for options
never gets that far. It is answered at once, without a correlation id, so the answers that carry one are exactly
those to every other method (`Server.correlates_iff`).
-/

namespace Gatehouse

open Http (Headers Request Response)

/-! ### Headers -/

namespace Http.Headers

/-- The values of all headers of a name. -/
def values (headers : Headers) (name : String) : List String :=
  (headers.filter fun h => h.name.toLower = name.toLower).map (·.value)

variable {headers : Headers} {name : String}

theorem values_append (a b : Headers) (name : String) : (a ++ b).values name = a.values name ++ b.values name := by
  rw [values, List.filter_append, List.map_append]
  rfl

theorem values_singleton (name value : String) : values [⟨name, value⟩] name = [value] := by
  rw [values, List.filter_singleton, decide_eq_true rfl]
  rfl

/-- Names of different lengths differ, whatever case their letters have. -/
theorem values_eq_nil (h : ∀ header ∈ headers, header.name.length ≠ name.length) : headers.values name = [] := by
  have hlength (s : String) : s.toLower.length = s.length := String.length_map
  rw [values, List.filter_eq_nil_iff.mpr, List.map_nil]
  intro header hheader hsame
  have hlengths := congrArg String.length (of_decide_eq_true hsame)
  rw [hlength, hlength] at hlengths
  exact h header hheader hlengths

end Http.Headers

namespace Http.Response

/-- The only header of a response is that of its content's type, if any. -/
def Bare (response : Response) : Prop := ∀ header ∈ response.headers, header.name = "content-type"

theorem bare_empty (status : Nat) : (empty status).Bare := fun _ h => absurd h List.not_mem_nil

theorem bare_plain (status : Nat) : (plain status).Bare := fun _ h => congrArg Header.name (List.mem_singleton.mp h)

theorem bare_json (status : Nat) (body : Json) : (json status body).Bare :=
  fun _ h => congrArg Header.name (List.mem_singleton.mp h)

theorem bare_unreadable {response : Response} (h : RequestReader.Unreadable response) : response.Bare := by
  obtain ⟨status, -, rfl⟩ := h
  exact bare_plain status

/-- The correlation ids of a response. -/
def correlationIds (response : Response) : List String :=
  response.headers.values RequestReader.correlationHeader

theorem Bare.correlationIds_eq_nil {response : Response} (h : response.Bare) : response.correlationIds = [] :=
  Headers.values_eq_nil fun header hheader => by
    rw [h header hheader]
    decide

/-- A response carries exactly one correlation id: the caller's own, which is that of the first such header, if
that is readable and not blank; and else the one that was drawn. -/
structure Correlates (m : Moment) (r : Request) (response : Response) : Prop where
  own : ∀ id, r.headers.first? RequestReader.correlationHeader = some id → isReadable id = true →
    Text.isBlankText id = false → response.correlationIds = [id]
  drawn : (∀ id, r.headers.first? RequestReader.correlationHeader = some id → isReadable id = true →
    Text.isBlankText id = true) → response.correlationIds = [m.correlation.render]

theorem Correlates.length_eq_one {m : Moment} {r : Request} {response : Response} (h : response.Correlates m r) :
    response.correlationIds.length = 1 := by
  by_cases hnone : ∀ id, r.headers.first? RequestReader.correlationHeader = some id → isReadable id = true →
      Text.isBlankText id = true
  · rw [h.drawn hnone, List.length_singleton]
  · push Not at hnone
    obtain ⟨id, hfirst, hreadable, hblank⟩ := hnone
    rw [h.own id hfirst hreadable (Bool.eq_false_iff.mpr hblank), List.length_singleton]

end Http.Response

/-! ### What routes reply -/

namespace Handler

variable {σ α : Type}

/-- Whatever a handler replies, at its end or early, is bare. -/
def Bare (act : Handler σ Response) : Prop :=
  ∀ s response, (act s).1 = .ok response ∨ (act s).1 = .error (.error response) → response.Bare

theorem bare_pure {response : Response} (h : response.Bare) : Bare (pure response : Handler σ Response) := by
  rintro s response' (heq | heq)
  · exact Except.ok.inj heq ▸ h
  · exact absurd heq nofun

/-- A handler that needs something of the request, and goes on. -/
theorem bare_need {x : Except Response α} {f : α → Handler σ Response}
    (hx : ∀ response, x = .error response → RequestReader.Unreadable response) (hf : ∀ a, Bare (f a)) :
    Bare (need x >>= f) := by
  intro s response hreply
  rw [need_bind_apply] at hreply
  cases x with
  | ok a => exact hf a s response hreply
  | error refused =>
    obtain heq | heq := hreply
    · exact absurd heq nofun
    · obtain rfl : refused = response := Stop.error.inj (Except.error.inj heq)
      exact Response.bare_unreadable (hx refused rfl)

/-- A handler that runs a service, and goes on. -/
theorem bare_ofService (act : Service σ α) {f : α → Handler σ Response} (hf : ∀ a, Bare (f a)) :
    Bare (ofService act >>= f) := by
  intro s response hreply
  rw [Action.bind_apply, ofService, Action.mapError_apply] at hreply
  generalize act s = run at hreply
  obtain ⟨(e | _) | a, after⟩ := run
  · obtain heq | heq := hreply
    · exact absurd heq nofun
    · obtain rfl : e.toResponse = response := Stop.error.inj (Except.error.inj heq)
      exact Response.bare_json _ _
  · exact absurd hreply nofun
  · exact hf a after response hreply

theorem bare_answer (toJson : α → Json) (act : Service σ α) : Bare (answer toJson act) :=
  bare_ofService act fun _ => bare_pure (Response.bare_json _ _)

end Handler

open Handler

namespace Server

variable {σ : Type} (s : Server σ) (m : Moment) (r : Request)

theorem bare_answerOpen (route : OpenRoute) : Bare (s.answerOpen m r route) := by
  cases route with
  | health => exact bare_pure (Response.bare_json _ _)
  | register | login | refresh =>
    exact bare_need (fun _ => RequestReader.unreadable_of_payload_eq_error) fun _ => bare_answer _ _

theorem bare_answerGuarded (caller : Claims) (route : GuardedRoute) : Bare (s.answerGuarded m r caller route) := by
  cases route with
  | verify =>
    exact bare_need (fun _ => RequestReader.unreadable_of_payload_eq_error) fun _ =>
      bare_ofService _ fun _ => bare_answer _ _
  | revoke | ownProfile | ownPassword =>
    exact bare_need (fun _ => RequestReader.unreadable_of_payload_eq_error) fun _ => bare_answer _ _
  | logout | ownAccount => exact bare_answer _ _
  | claims => exact bare_pure (Response.bare_json _ _)
  | users =>
    exact bare_need (fun _ => RequestReader.unreadable_of_query_eq_error) fun _ =>
      bare_ofService _ fun _ => bare_answer _ _
  | account id =>
    exact bare_need (fun _ => RequestReader.unreadable_of_accountId_eq_error) fun _ =>
      bare_ofService _ fun _ => bare_answer _ _

/-- Routes, and what takes their place, reply with bare responses. -/
theorem bare_route : Bare (s.route m r) := by
  unfold route
  split
  · split
    · exact s.bare_answerOpen m r _
    · exact bare_pure (Response.bare_empty 405)
  · refine bare_ofService _ fun caller => ?_
    split
    · exact s.bare_answerGuarded m r caller _
    · exact bare_pure (Response.bare_empty 405)
  · exact bare_ofService _ fun _ => bare_pure (Response.bare_empty 404)

/-! ### Answers with all their headers -/

/-- The headers that say what a path allows, and to whom, are no correlation ids. -/
theorem values_allowance_append (others : Headers)
    (h : ∀ header ∈ others, header.name.length ≠ RequestReader.correlationHeader.length) :
    (allowance r ++ others).values RequestReader.correlationHeader = [] := by
  have hallowance : (allowance r).values RequestReader.correlationHeader = [] := by
    refine Headers.values_eq_nil fun header hheader => ?_
    rw [allowance] at hheader
    split at hheader
    · split at hheader
      · exact absurd hheader List.not_mem_nil
      · have hne : "allow".length ≠ RequestReader.correlationHeader.length := by decide
        exact List.mem_singleton.mp hheader ▸ hne
    · exact absurd hheader List.not_mem_nil
  rw [Headers.values_append, hallowance, Headers.values_eq_nil h, List.append_nil]

/-- The answer to a question for options carries no correlation id. -/
theorem correlationIds_options : (options r).correlationIds = [] := by
  rw [Response.correlationIds, options, Response.withHeaders, Response.empty, List.nil_append, List.append_assoc]
  exact values_allowance_append r _ (by decide)

/-- A bare response gets one correlation id on the way out. -/
theorem correlationIds_finish {response : Response} (h : response.Bare) :
    (finish m r response).correlationIds = [(RequestReader.correlation? r).getD m.correlation.render] := by
  have hadded : (response.withHeaders (correlation m r ++ allowance r ++ sharing)).correlationIds =
      [(RequestReader.correlation? r).getD m.correlation.render] := by
    have hnone : response.headers.values RequestReader.correlationHeader = [] := h.correlationIds_eq_nil
    rw [Response.correlationIds, Response.withHeaders, Headers.values_append, hnone, List.nil_append,
      List.append_assoc, Headers.values_append, values_allowance_append r _ (by decide), List.append_nil]
    exact Headers.values_singleton _ _
  rw [finish]
  split
  · exact hadded
  · exact hadded

theorem correlates_finish {response : Response} (h : response.Bare) :
    (finish m r response).Correlates m r where
  own id hfirst hreadable hblank := by
    rw [correlationIds_finish m r h, RequestReader.correlation?, Headers.readable?, hfirst, Option.filter_some,
      if_pos hreadable, Option.filter_some, hblank]
    rfl
  drawn hnone := by
    have hown : RequestReader.correlation? r = none := by
      rw [RequestReader.correlation?, Headers.readable?, Option.filter_eq_none_iff]
      intro id hid
      obtain ⟨hfirst, hreadable⟩ := Option.filter_eq_some_iff.mp hid
      rw [hnone id hfirst hreadable]
      decide
    rw [correlationIds_finish m r h, hown]
    rfl

/-- **Exactly the answers to questions for options lack a correlation id.** To every other method, on every path
and in every state of the stores, the answer carries exactly one: the caller's own if that is readable and not
blank, and else the hyphenated form of the identifier that was drawn for the request. There is an answer as long
as both expiries of the time lie in the calendar. -/
theorem correlates_iff (s : Server σ) (m : Moment) (r : Request) (mem : σ) :
    (∀ response ∈ (s.handle m r mem).1, response.Correlates m r ↔ r.method ≠ "OPTIONS") ∧
      Uuid.hyphenated? m.correlation.render.toList = some m.correlation ∧
      ((s.tokens.expiries? m.now).isSome = true → (s.handle m r mem).1.isSome = true) := by
  refine ⟨fun response hresponse => ?_, ?_, fun h => s.isSome_handle r h mem⟩
  · by_cases hoptions : r.method = "OPTIONS"
    · rw [handle_options s m hoptions] at hresponse
      obtain rfl := Option.mem_some_iff.mp hresponse
      refine iff_of_false (fun hcorrelates => ?_) (not_not_intro hoptions)
      have hone := hcorrelates.length_eq_one
      rw [correlationIds_options] at hone
      exact absurd hone (by decide)
    · rw [handle_apply s m hoptions] at hresponse
      refine iff_of_true ?_ hoptions
      have hbare := s.bare_route m r mem
      generalize (s.route m r mem).1 = result at hresponse hbare
      obtain (reply | _) | reply := result
      · obtain rfl := Option.mem_some_iff.mp hresponse
        exact correlates_finish m r (hbare reply (.inr rfl))
      · exact absurd hresponse nofun
      · obtain rfl := Option.mem_some_iff.mp hresponse
        exact correlates_finish m r (hbare reply (.inl rfl))
  · rw [Uuid.render, String.toList_ofList]
    exact m.correlation.hyphenated?_renderChars

/-- A sample request by a caller with an id of its own, by a method that the path does not serve. -/
def sampleTraced : Request where
  method := "DELETE"
  path := "/health"
  headers := [⟨RequestReader.correlationHeader, "trace 7"⟩]

/-- The sample request is refused, with the caller's own id. -/
theorem sample_refusal_correlates :
    ∃ response, ((inMemory sampleConfig 10 4).handle sampleMoment sampleTraced {}).1 = some response ∧
      response.status = 405 ∧ response.correlationIds = ["trace 7"] := by
  have hanswer : ((inMemory sampleConfig 10 4).handle sampleMoment sampleTraced {}).1 =
      some (finish sampleMoment sampleTraced (.empty 405)) := rfl
  obtain ⟨hcorrelates, -⟩ := correlates_iff (inMemory sampleConfig 10 4) sampleMoment sampleTraced {}
  refine ⟨_, hanswer, rfl, ?_⟩
  exact ((hcorrelates _ (Option.mem_def.mpr hanswer)).mpr (by decide)).own "trace 7"
    (Headers.first?_cons_self ..) (by decide) (by decide)

/-- A question for options by a caller with an id of its own. -/
def sampleOptions : Request where
  method := "OPTIONS"
  path := "/health"
  headers := [⟨RequestReader.correlationHeader, "trace 7"⟩]

/-- The question for options is answered without any id. -/
theorem options_lack_correlation_id :
    ∃ response, ((inMemory sampleConfig 10 4).handle sampleMoment sampleOptions {}).1 = some response ∧
      response.status = 200 ∧ response.correlationIds = [] ∧ ¬ response.Correlates sampleMoment sampleOptions := by
  refine ⟨options sampleOptions, rfl, rfl, correlationIds_options _, fun hcorrelates => ?_⟩
  have hone := hcorrelates.length_eq_one
  rw [correlationIds_options] at hone
  exact absurd hone (by decide)

end Server

end Gatehouse

import Gatehouse.Proofs.Server.Answers

/-!
# Every request is answered

A server gives no answer only if an expiry lies outside the calendar. While both expiries of the time lie in
it, whatever mints tokens settles (`Action.Settles`): it yields a result, or fails for a cause. So does
whatever is made of actions that settle, up to the handler of a route, and so a server over any stores
answers every request (`Server.isSome_handle`).
-/

namespace Gatehouse

namespace Action

variable {σ ε ε' α β : Type}

/-- An action yields a result or fails for a cause, in every state. -/
def Settles (act : Action σ (Stop ε) α) : Prop := ∀ s, (act s).1 ≠ .error .overflow

theorem settles_pure (a : α) : (pure a : Action σ (Stop ε) α).Settles := fun _ => nofun

theorem settles_stop (e : ε) : (stop e : Action σ (Stop ε) α).Settles := fun _ => nofun

theorem settles_ofCalendar {x : Option α} (h : x.isSome = true) :
    (ofCalendar x : Action σ (Stop ε) α).Settles := by
  obtain ⟨a, rfl⟩ := Option.isSome_iff_exists.mp h
  exact settles_pure a

/-- An action that cannot overflow settles among those that can. -/
theorem settles_mapError_error (f : ε → ε') (act : Action σ ε α) :
    (act.mapError fun e => .error (f e) : Action σ (Stop ε') α).Settles := by
  intro s
  rw [mapError_apply]
  cases (act s).1 with
  | ok a => exact nofun
  | error e => exact nofun

theorem settles_lift (act : Action σ ε α) : (lift act).Settles := settles_mapError_error id act

namespace Settles

variable {act : Action σ (Stop ε) α}

theorem bind {f : α → Action σ (Stop ε) β} (h : act.Settles) (hf : ∀ a, (f a).Settles) :
    (act >>= f).Settles := by
  intro s
  have hact := h s
  rw [bind_apply]
  generalize act s = run at hact
  rcases run with ⟨(_ | _) | a, s'⟩
  · exact nofun
  · exact absurd rfl hact
  · exact hf a s'

theorem mapError (f : ε → ε') (h : act.Settles) : (act.mapError (Stop.mapError f)).Settles := by
  intro s
  have hact := h s
  rw [mapError_apply]
  generalize act s = run at hact
  rcases run with ⟨(_ | _) | _, _⟩
  · exact nofun
  · exact absurd rfl hact
  · exact nofun

end Settles

end Action

open Gatehouse.Action

variable {σ α : Type}

/-! ### Operations on tokens -/

namespace TokenConfig

variable {c : TokenConfig} (store : RecordAccess σ) {now : Instant}

/-- Each expiry lies in the calendar. -/
theorem isSome_add? (h : (c.expiries? now).isSome = true) (kind : TokenKind) :
    (now.add? (c.lifetime kind)).isSome = true := by
  obtain ⟨⟨access, refresh⟩, hexpiries⟩ := Option.isSome_iff_exists.mp h
  obtain ⟨haccess, hrefresh⟩ := c.expiries?_eq_some_iff.mp hexpiries
  cases kind with
  | access => exact Option.isSome_of_eq_some haccess
  | refresh => exact Option.isSome_of_eq_some hrefresh

theorem isSome_sign? (h : (c.expiries? now).isSome = true) (s : Subject) (kind : TokenKind) (id : String) :
    (c.sign? s kind now id).isSome = true := by
  rw [sign?, Claims.mint?_eq]
  simpa using isSome_add? h kind

/-- While both expiries lie in the calendar, tokens can be issued. -/
theorem settles_issue (h : (c.expiries? now).isSome = true) (s : Subject) (draws : TokenDraws) :
    (c.issue store s now draws).Settles := by
  refine .bind (settles_ofCalendar (isSome_sign? h s .access _)) fun access => ?_
  refine .bind (settles_ofCalendar (isSome_sign? h s .refresh _)) fun refresh => ?_
  refine .bind (settles_ofCalendar (isSome_add? h .refresh)) fun expiry => ?_
  exact .bind (settles_lift _) fun record => settles_pure _

/-- While both expiries lie in the calendar, tokens can be refreshed. -/
theorem settles_refresh (h : (c.expiries? now).isSome = true) (access token : String) (accessId : Uuid) :
    (c.refresh store access token now accessId).Settles := by
  refine .bind (settles_lift _) fun claims => .bind (settles_lift _) fun found =>
    .bind (settles_lift _) fun record => ?_
  refine .bind (settles_ofCalendar (isSome_sign? h _ .access _)) fun access => ?_
  refine .bind (settles_ofCalendar (isSome_add? h .refresh)) fun expiry => ?_
  refine .bind (settles_lift _) fun extended => ?_
  cases extended with
  | none => exact settles_stop _
  | some record => exact settles_pure _

end TokenConfig

/-! ### Services -/

namespace Service

theorem settles_ofExcept (x : Except Refusal α) : (ofExcept x : Service σ α).Settles := by
  cases x with
  | ok a => exact settles_pure a
  | error e => exact settles_stop e

theorem settles_onUsers (act : Action σ UserError α) : (onUsers act).Settles := settles_mapError_error _ act

theorem settles_onRecords (act : Action σ AuthError α) : (onRecords act).Settles :=
  settles_mapError_error _ act

theorem settles_requireAdmin (caller : Claims) : (requireAdmin caller : Service σ Unit).Settles := by
  rw [requireAdmin]
  cases caller.isAdmin with
  | true => exact settles_pure ()
  | false => exact settles_stop _

end Service

open Service

namespace Server

variable (s : Server σ) {m : Moment}

theorem settles_login (h : (s.tokens.expiries? m.now).isSome = true) (l : Login) : (s.login m l).Settles := by
  refine .bind (settles_onUsers _) fun found => ?_
  cases found with
  | none => exact settles_stop _
  | some row =>
    refine .bind (settles_ofExcept _) fun verified => ?_
    cases verified with
    | true => exact .mapError _ (TokenConfig.settles_issue _ h _ _)
    | false => exact settles_stop _

theorem settles_register (h : (s.tokens.expiries? m.now).isSome = true) (r : Registration) :
    (s.register m r).Settles := by
  refine .bind (settles_ofExcept _) fun order => .bind (settles_onUsers _) fun taken => ?_
  cases taken with
  | true => exact settles_stop _
  | false =>
    refine .bind (settles_ofExcept _) fun hash => .bind (settles_onUsers _) fun user => ?_
    exact .bind (.mapError _ (TokenConfig.settles_issue _ h _ _)) fun _ => settles_pure _

theorem settles_revoke (caller : Claims) (subject : String) : (s.revoke caller subject).Settles := by
  rw [revoke]
  split
  · exact settles_stop _
  · exact settles_onRecords _

theorem settles_listUsers (t : QueryText) : (s.listUsers t).Settles := by
  refine .bind (settles_ofExcept _) fun q => ?_
  split <;> exact .bind (settles_onUsers _) fun _ => settles_pure _

theorem settles_getUser (id : String) : (s.getUser id).Settles := by
  refine .bind (settles_onUsers _) fun found => ?_
  cases found with
  | none => exact settles_stop _
  | some row => exact settles_pure _

theorem settles_updateProfile (caller : Claims) (w : ProfileWish) : (s.updateProfile m caller w).Settles := by
  refine .bind (settles_ofExcept _) fun update => .bind (settles_onUsers _) fun updated => ?_
  cases updated with
  | none => exact settles_stop _
  | some user => exact settles_pure _

theorem settles_changePassword (caller : Claims) (c : PasswordChange) :
    (s.changePassword m caller c).Settles := by
  refine .bind (settles_onUsers _) fun found => ?_
  cases found with
  | none => exact settles_stop _
  | some row =>
    refine .bind (settles_ofExcept _) fun _ => .bind (settles_ofExcept _) fun verified => ?_
    cases verified with
    | false => exact settles_stop _
    | true =>
      refine .bind (settles_ofExcept _) fun hash => .bind (settles_onUsers _) fun isSet => ?_
      cases isSet with
      | true => exact s.settles_getUser _
      | false => exact settles_stop _

end Server

/-! ### Handlers -/

namespace Handler

theorem settles_need (x : Except Http.Response α) : (need x : Handler σ α).Settles := by
  cases x with
  | ok a => exact settles_pure a
  | error response => exact settles_stop response

theorem settles_answer {act : Service σ α} (toJson : α → Json) (h : act.Settles) :
    (answer toJson act).Settles :=
  .bind (.mapError _ h) fun _ => settles_pure _

end Handler

open Handler

namespace Server

variable (s : Server σ) {m : Moment} (r : Http.Request)

theorem settles_answerOpen (h : (s.tokens.expiries? m.now).isSome = true) (route : OpenRoute) :
    (s.answerOpen m r route).Settles := by
  cases route with
  | health => exact settles_pure _
  | register => exact .bind (settles_need _) fun _ => settles_answer _ (s.settles_register h _)
  | login => exact .bind (settles_need _) fun _ => settles_answer _ (s.settles_login h _)
  | refresh =>
    exact .bind (settles_need _) fun _ => settles_answer _ (.mapError _ (TokenConfig.settles_refresh _ h _ _ _))

theorem settles_answerGuarded (caller : Claims) (route : GuardedRoute) :
    (s.answerGuarded m r caller route).Settles := by
  have hadmin : (ofService (requireAdmin caller) : Handler σ Unit).Settles :=
    .mapError _ (settles_requireAdmin caller)
  cases route with
  | verify =>
    exact .bind (settles_need _) fun _ => .bind hadmin fun _ => settles_answer _ (settles_onRecords _)
  | revoke => exact .bind (settles_need _) fun _ => settles_answer _ (s.settles_revoke _ _)
  | logout => exact settles_answer _ (settles_onRecords _)
  | claims => exact settles_pure _
  | users => exact .bind (settles_need _) fun _ => .bind hadmin fun _ => settles_answer _ (s.settles_listUsers _)
  | ownAccount => exact settles_answer _ (s.settles_getUser _)
  | ownProfile => exact .bind (settles_need _) fun _ => settles_answer _ (s.settles_updateProfile _ _)
  | ownPassword => exact .bind (settles_need _) fun _ => settles_answer _ (s.settles_changePassword _ _)
  | account id =>
    exact .bind (settles_need _) fun _ => .bind hadmin fun _ => settles_answer _ (s.settles_getUser _)

theorem settles_route (h : (s.tokens.expiries? m.now).isSome = true) : (s.route m r).Settles := by
  have hbearer : (ofService (ofExcept (s.authenticate m r)) : Handler σ Claims).Settles :=
    .mapError _ (settles_ofExcept _)
  unfold route
  split
  · split
    · exact s.settles_answerOpen r h _
    · exact settles_pure _
  · refine .bind hbearer fun caller => ?_
    split
    · exact s.settles_answerGuarded r caller _
    · exact settles_pure _
  · exact .bind hbearer fun _ => settles_pure _

/-- **While both expiries of the time lie in the calendar, every request is answered**, whatever the stores
hold. -/
theorem isSome_handle (h : (s.tokens.expiries? m.now).isSome = true) (mem : σ) :
    (s.handle m r mem).1.isSome = true := by
  by_cases hoptions : r.method = "OPTIONS"
  · rw [handle_options s m hoptions]
    rfl
  · have hsettles := s.settles_route r h mem
    rw [handle_apply s m hoptions]
    generalize (s.route m r mem).1 = result at hsettles
    rcases result with (_ | _) | _
    · rfl
    · exact absurd rfl hsettles
    · rfl

end Server

end Gatehouse

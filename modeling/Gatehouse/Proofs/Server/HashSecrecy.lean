import Gatehouse.Proofs.Server.AdminOnly
import Gatehouse.Proofs.Server.PasswordChange

/-!
# Who sees password hashes

A lookup finds an account together with the hash of its password, but only a login and a change of password
look at the hash. Every other request is answered alike over any two stores that agree on everything else
(`Memory.AgreeButHashes`), and leaves behind two stores that agree in the same way.

This is a statement about two runs, and it is proved from the inside out: an action is blind to hashes
(`Action.Blind`) if it takes stores that agree to one result and to stores that agree. The operations of the
stores are blind except for the lookups; what is made of blind actions is blind; and `Server.getUser` is blind
although it looks an account up, because it drops the hash.
-/

namespace Gatehouse

open Http (Request Response)

/-! ### Accounts without their hashes -/

namespace Directory

/-- The accounts without the hashes of their passwords. -/
def accounts (d : Directory) : List User := d.users.map (·.user)

variable {d d' : Directory}

theorem taken_eq (d : Directory) (username : String) (email : Option String) :
    d.taken username email =
      d.accounts.any fun u => u.username = username || (email.isSome && u.email = email) := by
  rw [taken, accounts, List.any_map]
  rfl

theorem emailTakenByOther_eq (d : Directory) (id : String) (email : Option String) :
    d.emailTakenByOther id email = (email.isSome && d.accounts.any fun u => u.id ≠ id && u.email = email) := by
  rw [emailTakenByOther, accounts, List.any_map]
  rfl

theorem list_eq (d : Directory) (page : ListPage) :
    d.list page = (d.accounts.drop page.offset).take page.limit := by
  rw [list, accounts, List.map_take, List.map_drop]

/-- What a lookup by id finds, without the hash. -/
theorem map_user_findById (d : Directory) (id : String) :
    (d.findById id).map (·.user) = d.accounts.find? fun u => u.id = id := by
  rw [findById, accounts, List.find?_map]
  rfl

/-- Which account is created does not depend on hashes. -/
theorem create_congr (h : d.accounts = d'.accounts) (new : NewUser) (now : Instant) (id : String) :
    (d.create new now id).1 = (d'.create new now id).1 ∧
      (d.create new now id).2.accounts = (d'.create new now id).2.accounts := by
  have hempty : d.users.isEmpty = d'.users.isEmpty := by
    have hmap := congrArg List.isEmpty h
    rwa [accounts, accounts, List.isEmpty_map, List.isEmpty_map] at hmap
  have haccounts (d : Directory) (row : StoredUser) : accounts ⟨d.users ++ [row]⟩ = d.accounts ++ [row.user] :=
    List.map_append
  rw [create, create, taken_eq, taken_eq, h, hempty]
  split
  · exact ⟨rfl, h⟩
  · exact ⟨rfl, by rw [haccounts, haccounts, h]⟩

/-- Putting another account in the place of the first one with an id keeps the hash where it is. -/
theorem map_user_modify (changed : User) (id : String) {users users' : List StoredUser}
    (h : users.map (·.user) = users'.map (·.user)) :
    (modify (fun row => { row with user := changed }) id users).map (·.user) =
      (modify (fun row => { row with user := changed }) id users').map (·.user) := by
  induction users generalizing users' with
  | nil =>
    obtain rfl := List.map_eq_nil_iff.mp h.symm
    rfl
  | cons row rest ih =>
    obtain ⟨row', rest', rfl, hrow, hrest⟩ := List.map_eq_cons_iff.mp h.symm
    rw [modify, modify, hrow]
    split
    · rw [List.map_cons, List.map_cons, hrest]
    · rw [List.map_cons, List.map_cons, hrow, ih hrest.symm]

/-- What comes of a change of profile does not depend on hashes. -/
theorem updateProfile_congr (h : d.accounts = d'.accounts) (id : String) (update : ProfileUpdate)
    (now : Instant) :
    (d.updateProfile id update now).1 = (d'.updateProfile id update now).1 ∧
      (d.updateProfile id update now).2.accounts = (d'.updateProfile id update now).2.accounts := by
  have hfound : (d.findById id).map (·.user) = (d'.findById id).map (·.user) := by
    rw [map_user_findById, map_user_findById, h]
  rw [updateProfile, updateProfile, emailTakenByOther_eq, emailTakenByOther_eq, h]
  split
  · exact ⟨rfl, h⟩
  generalize d.findById id = found, d'.findById id = found' at hfound ⊢
  cases found with
  | none =>
    obtain rfl := Option.map_eq_none_iff.mp hfound.symm
    exact ⟨rfl, h⟩
  | some row =>
    obtain ⟨row', rfl, hrow⟩ := Option.map_eq_some_iff.mp hfound.symm
    dsimp only
    rw [hrow]
    exact ⟨rfl, map_user_modify _ id h⟩

end Directory

/-! ### Actions that are blind to hashes -/

/-- Two stores agree on everything except the hashes of passwords. -/
structure Memory.AgreeButHashes (left right : Memory) : Prop where
  records : left.records = right.records
  accounts : left.users.accounts = right.users.accounts

namespace Action

variable {ε ε' α β : Type}

/-- An action is blind to hashes: it takes stores that agree on everything else to one result, and to stores
that agree on everything else. -/
def Blind (act : Action Memory ε α) : Prop :=
  ∀ left right : Memory, left.AgreeButHashes right →
    (act left).1 = (act right).1 ∧ (act left).2.AgreeButHashes (act right).2

theorem blind_pure (a : α) : (pure a : Action Memory ε α).Blind := fun _ _ h => ⟨rfl, h⟩

theorem blind_throw (e : ε) : (throw e : Action Memory ε α).Blind := fun _ _ h => ⟨rfl, h⟩

theorem blind_ofExcept (x : Except ε α) : (ofExcept x : Action Memory ε α).Blind := by
  cases x with
  | ok a => exact blind_pure a
  | error e => exact blind_throw e

theorem blind_ofCalendar (x : Option α) : (ofCalendar x : Action Memory (Stop ε) α).Blind := by
  cases x with
  | some a => exact blind_pure a
  | none => exact blind_throw _

namespace Blind

variable {act : Action Memory ε α}

/-- The first action ends alike over both stores, and the second goes on from the same value. -/
theorem bind {f : α → Action Memory ε β} (h : act.Blind) (hf : ∀ a, (f a).Blind) : (act >>= f).Blind := by
  intro left right hagree
  obtain ⟨hresult, hafter⟩ := h left right hagree
  rw [bind_apply, bind_apply]
  generalize act left = run, act right = run' at hresult hafter ⊢
  obtain ⟨result, after⟩ := run
  obtain ⟨result', after'⟩ := run'
  obtain rfl : result = result' := hresult
  cases result with
  | ok a => exact hf a after after' hafter
  | error e => exact ⟨rfl, hafter⟩

theorem mapError (f : ε → ε') (h : act.Blind) : (act.mapError f).Blind := by
  intro left right hagree
  obtain ⟨hresult, hafter⟩ := h left right hagree
  rw [mapError_apply, mapError_apply, hresult]
  exact ⟨rfl, hafter⟩

end Blind

end Action

open Gatehouse.Action

namespace Memory

variable {ε α : Type}

/-- Whatever is done to the records is done without a look at the accounts. -/
theorem blind_onRecords (f : RecordStore → α × RecordStore) : (onRecords f : Action Memory ε α).Blind := by
  rintro ⟨users, records⟩ ⟨users', records'⟩ ⟨rfl, haccounts⟩
  exact ⟨rfl, rfl, haccounts⟩

theorem blind_find (subject : String) : (recordAccess.find subject).Blind := by
  rintro ⟨users, records⟩ ⟨users', records'⟩ ⟨rfl, haccounts⟩
  exact ⟨rfl, rfl, haccounts⟩

/-- What is done to the accounts is blind if it does not depend on hashes. -/
theorem blind_onUsers {f : Directory → α × Directory}
    (hf : ∀ d d' : Directory, d.accounts = d'.accounts →
      (f d).1 = (f d').1 ∧ (f d).2.accounts = (f d').2.accounts) :
    (onUsers f : Action Memory ε α).Blind := by
  intro left right hagree
  obtain ⟨hresult, haccounts⟩ := hf left.users right.users hagree.accounts
  rw [onUsers_apply, onUsers_apply, hresult]
  exact ⟨rfl, hagree.records, haccounts⟩

theorem blind_taken (username : String) (email : Option String) :
    (access.users.taken username email).Blind := by
  intro left right hagree
  rw [taken_apply, taken_apply, Directory.taken_eq, Directory.taken_eq, hagree.accounts]
  exact ⟨rfl, hagree⟩

theorem blind_create (new : NewUser) (now : Instant) (id : String) :
    (access.users.create new now id).Blind := by
  refine .bind (blind_onUsers fun _ _ h => Directory.create_congr h new now id) fun created => ?_
  cases created with
  | some user => exact blind_pure user
  | none => exact blind_throw _

theorem blind_updateProfile (id : String) (update : ProfileUpdate) (now : Instant) :
    (access.users.updateProfile id update now).Blind := by
  refine .bind (blind_onUsers fun _ _ h => Directory.updateProfile_congr h id update now) fun outcome => ?_
  cases outcome with
  | updated user => exact blind_pure (some user)
  | missing => exact blind_pure none
  | emailTaken => exact blind_throw _

theorem blind_list (page : ListPage) : (access.users.list page).Blind := by
  intro left right hagree
  rw [list_apply, list_apply, Directory.list_eq, Directory.list_eq, hagree.accounts]
  exact ⟨rfl, hagree⟩

end Memory

/-! ### Operations on tokens -/

namespace TokenConfig

variable (c : TokenConfig) (now : Instant)

theorem blind_issue (s : Subject) (draws : TokenDraws) : (c.issue Memory.recordAccess s now draws).Blind := by
  refine .bind (blind_ofCalendar _) fun access => .bind (blind_ofCalendar _) fun refresh =>
    .bind (blind_ofCalendar _) fun expiry => ?_
  exact .bind (.mapError _ (Memory.blind_onRecords _)) fun record => blind_pure _

theorem blind_renew (k : Claims) (token : String) (r : TokenRecord) (accessId : Uuid) :
    (c.renew Memory.recordAccess k token r now accessId).Blind := by
  refine .bind (blind_ofCalendar _) fun access => .bind (blind_ofCalendar _) fun expiry => ?_
  refine .bind (.mapError _ (Memory.blind_onRecords _)) fun extended => ?_
  cases extended with
  | some record => exact blind_pure _
  | none => exact blind_throw _

theorem blind_refresh (access token : String) (accessId : Uuid) :
    (c.refresh Memory.recordAccess access token now accessId).Blind :=
  .bind (.mapError _ (blind_ofExcept _)) fun _ => .bind (.mapError _ (Memory.blind_find _)) fun _ =>
    .bind (.mapError _ (blind_ofExcept _)) fun record => c.blind_renew now _ token record accessId

theorem blind_verifyRefreshToken (token : String) :
    (c.verifyRefreshToken Memory.recordAccess token now).Blind := by
  rw [verifyRefreshToken]
  cases c.verify token .refresh true now with
  | error _ => exact blind_pure false
  | ok claims => exact .bind (Memory.blind_find claims.sub) fun _ => blind_ofExcept _

end TokenConfig

/-! ### Services -/

namespace Service

variable {α : Type}

theorem blind_ofExcept (x : Except Refusal α) : (ofExcept x : Service Memory α).Blind := by
  cases x with
  | ok a => exact blind_pure a
  | error e => exact blind_throw _

theorem blind_requireAdmin (caller : Claims) : (requireAdmin caller : Service Memory Unit).Blind := by
  rw [requireAdmin]
  cases caller.isAdmin with
  | true => exact blind_pure ()
  | false => exact blind_throw _

end Service

open Service

namespace Server

variable (tokens : TokenConfig) (scanLimit hashCost : Nat) (m : Moment)

/-- A registration writes a hash, and looks at none. -/
theorem blind_register (r : Registration) : ((inMemory tokens scanLimit hashCost).register m r).Blind := by
  refine .bind (Service.blind_ofExcept _) fun order => .bind (.mapError _ (Memory.blind_taken _ _)) fun taken => ?_
  cases taken with
  | true => exact blind_throw _
  | false =>
    refine .bind (Service.blind_ofExcept _) fun hash => .bind (.mapError _ (Memory.blind_create _ _ _)) fun user => ?_
    exact .bind (.mapError _ (tokens.blind_issue _ _ _)) fun _ => blind_pure _

theorem blind_revoke (caller : Claims) (subject : String) :
    ((inMemory tokens scanLimit hashCost).revoke caller subject).Blind := by
  rw [revoke]
  split
  · exact blind_throw _
  · exact .mapError _ (Memory.blind_onRecords _)

theorem blind_listUsers (t : QueryText) : ((inMemory tokens scanLimit hashCost).listUsers t).Blind := by
  refine .bind (Service.blind_ofExcept _) fun q => ?_
  split <;> exact .bind (.mapError _ (Memory.blind_list _)) fun _ => blind_pure _

/-- Looking at an account finds its hash as well, and drops it. -/
theorem blind_getUser (id : String) : ((inMemory tokens scanLimit hashCost).getUser id).Blind := by
  intro left right hagree
  have hfound : (left.users.findById id).map (·.user) = (right.users.findById id).map (·.user) := by
    rw [Directory.map_user_findById, Directory.map_user_findById, hagree.accounts]
  rw [getUser_eq, getUser_eq]
  generalize left.users.findById id = found, right.users.findById id = found' at hfound
  cases found with
  | none =>
    obtain rfl := Option.map_eq_none_iff.mp hfound.symm
    exact ⟨rfl, hagree⟩
  | some row =>
    obtain ⟨row', rfl, hrow⟩ := Option.map_eq_some_iff.mp hfound.symm
    dsimp only
    rw [hrow]
    exact ⟨rfl, hagree⟩

theorem blind_updateProfile (caller : Claims) (w : ProfileWish) :
    ((inMemory tokens scanLimit hashCost).updateProfile m caller w).Blind := by
  refine .bind (Service.blind_ofExcept _) fun update => ?_
  refine .bind (.mapError _ (Memory.blind_updateProfile _ _ _)) fun updated => ?_
  cases updated with
  | some user => exact blind_pure user
  | none => exact blind_throw _

end Server

/-! ### Handlers -/

namespace Handler

variable {α : Type}

theorem blind_need (x : Except Response α) : (need x : Handler Memory α).Blind := by
  cases x with
  | ok a => exact blind_pure a
  | error response => exact blind_throw _

theorem blind_answer {act : Service Memory α} (toJson : α → Json) (h : act.Blind) : (answer toJson act).Blind :=
  .bind (.mapError _ h) fun _ => blind_pure _

end Handler

open Handler

namespace Server

variable (tokens : TokenConfig) (scanLimit hashCost : Nat) (m : Moment) {r : Request}

/-- Every open route but the login is blind to hashes. -/
theorem blind_answerOpen {route : OpenRoute} (h : route ≠ .login) :
    ((inMemory tokens scanLimit hashCost).answerOpen m r route).Blind := by
  cases route with
  | health => exact blind_pure _
  | register => exact .bind (blind_need _) fun _ => blind_answer _ (blind_register _ _ _ _ _)
  | login => exact absurd rfl h
  | refresh =>
    exact .bind (blind_need _) fun _ => blind_answer _ (.mapError _ (tokens.blind_refresh _ _ _ _))

/-- Every guarded route but the change of password is blind to hashes. -/
theorem blind_answerGuarded (caller : Claims) {route : GuardedRoute} (h : route ≠ .ownPassword) :
    ((inMemory tokens scanLimit hashCost).answerGuarded m r caller route).Blind := by
  have hadmin : (ofService (requireAdmin caller) : Handler Memory Unit).Blind :=
    .mapError _ (blind_requireAdmin caller)
  cases route with
  | verify =>
    exact .bind (blind_need _) fun _ => .bind hadmin fun _ =>
      blind_answer _ (.mapError _ (tokens.blind_verifyRefreshToken _ _))
  | revoke => exact .bind (blind_need _) fun _ => blind_answer _ (blind_revoke _ _ _ _ _)
  | logout => exact blind_answer _ (.mapError _ (Memory.blind_onRecords _))
  | claims => exact blind_pure _
  | users => exact .bind (blind_need _) fun _ => .bind hadmin fun _ => blind_answer _ (blind_listUsers _ _ _ _)
  | ownAccount => exact blind_answer _ (blind_getUser _ _ _ _)
  | ownProfile => exact .bind (blind_need _) fun _ => blind_answer _ (blind_updateProfile _ _ _ _ _ _)
  | ownPassword => exact absurd rfl h
  | account id => exact .bind (blind_need _) fun _ => .bind hadmin fun _ => blind_answer _ (blind_getUser _ _ _ _)

/-- A request that asks neither for a login nor for a change of password is answered without a look at
hashes. -/
theorem blind_route (hlogin : ¬ r.Asks (.free .login)) (hchange : ¬ r.Asks (.guarded .ownPassword)) :
    ((inMemory tokens scanLimit hashCost).route m r).Blind := by
  have hbearer : (ofService (Service.ofExcept ((inMemory tokens scanLimit hashCost).authenticate m r)) :
      Handler Memory Claims).Blind := .mapError _ (Service.blind_ofExcept _)
  unfold route
  split
  next route hpath =>
    split
    next hserves => exact blind_answerOpen _ _ _ _ fun h => hlogin ⟨h ▸ hpath, h ▸ hserves⟩
    next => exact blind_pure _
  next route hpath =>
    refine .bind hbearer fun caller => ?_
    split
    next hserves => exact blind_answerGuarded _ _ _ _ caller fun h => hchange ⟨h ▸ hpath, h ▸ hserves⟩
    next => exact blind_pure _
  next => exact .bind hbearer fun _ => blind_pure _

variable {left right : Memory}

/-- Such a request is answered alike over stores that agree on everything but hashes. -/
theorem handle_fst_congr (hlogin : ¬ r.Asks (.free .login)) (hchange : ¬ r.Asks (.guarded .ownPassword))
    (hagree : left.AgreeButHashes right) :
    ((inMemory tokens scanLimit hashCost).handle m r left).1 =
      ((inMemory tokens scanLimit hashCost).handle m r right).1 := by
  by_cases hoptions : r.method = "OPTIONS"
  · rw [handle_options _ m hoptions, handle_options _ m hoptions]
  · obtain ⟨hresult, -⟩ := blind_route tokens scanLimit hashCost m hlogin hchange left right hagree
    rw [handle_apply _ m hoptions, handle_apply _ m hoptions, hresult]

/-- Such a request leaves the stores in agreement on everything but hashes. -/
theorem agree_handle (hlogin : ¬ r.Asks (.free .login)) (hchange : ¬ r.Asks (.guarded .ownPassword))
    (hagree : left.AgreeButHashes right) :
    ((inMemory tokens scanLimit hashCost).handle m r left).2.AgreeButHashes
      ((inMemory tokens scanLimit hashCost).handle m r right).2 := by
  by_cases hoptions : r.method = "OPTIONS"
  · rw [handle_options _ m hoptions, handle_options _ m hoptions]
    exact hagree
  · obtain ⟨-, hafter⟩ := blind_route tokens scanLimit hashCost m hlogin hchange left right hagree
    rw [handle_apply _ m hoptions, handle_apply _ m hoptions]
    exact hafter

/-- Stores that agree on everything but hashes go on to agree, as long as nobody logs in or changes a
password. -/
theorem agree_run (requests : List (Moment × Request)) (hlogin : ∀ q ∈ requests, ¬ q.2.Asks (.free .login))
    (hchange : ∀ q ∈ requests, ¬ q.2.Asks (.guarded .ownPassword)) (hagree : left.AgreeButHashes right) :
    ((inMemory tokens scanLimit hashCost).run left requests).AgreeButHashes
      ((inMemory tokens scanLimit hashCost).run right requests) := by
  induction requests generalizing left right with
  | nil => exact hagree
  | cons q rest ih =>
    rw [List.forall_mem_cons] at hlogin hchange
    exact ih hlogin.2 hchange.2 (agree_handle tokens scanLimit hashCost q.1 hlogin.1 hchange.1 hagree)

/-- **Password hashes stay hidden.** Over two stores that agree on everything except password hashes, every
request that asks neither for a login nor for a change of password is answered alike, and leaves behind two
stores that agree on everything except password hashes. -/
theorem password_hashes_stay_hidden (tokens : TokenConfig) (scanLimit hashCost : Nat) (m : Moment) {r : Request}
    (hlogin : ¬ r.Asks (.free .login)) (hchange : ¬ r.Asks (.guarded .ownPassword)) {left right : Memory}
    (hagree : left.AgreeButHashes right) :
    ((inMemory tokens scanLimit hashCost).handle m r left).1 =
        ((inMemory tokens scanLimit hashCost).handle m r right).1 ∧
      ((inMemory tokens scanLimit hashCost).handle m r left).2.AgreeButHashes
        ((inMemory tokens scanLimit hashCost).handle m r right).2 :=
  ⟨handle_fst_congr tokens scanLimit hashCost m hlogin hchange hagree,
    agree_handle tokens scanLimit hashCost m hlogin hchange hagree⟩

/-! ### A sample -/

/-- A listing asks for the accounts and for nothing else. -/
theorem sampleListing_not_asks (token : String) {route : Route} (h : route ≠ .guarded .users) :
    ¬ (sampleListing token).Asks route :=
  fun hasks => h (Option.some.inj (hasks.path.symm.trans rfl))

/-- An admin who lists the accounts gets the same answer whatever the hashes are. -/
theorem sample_listing_hides_hashes :
    ∃ token caller, Bears sampleConfig sampleMoment (sampleListing token) caller ∧ caller.role = adminRole ∧
      sampleStores "first" ≠ sampleStores "second" ∧
      ((inMemory sampleConfig 10 4).handle sampleMoment (sampleListing token) (sampleStores "first")).1 =
        some (finish sampleMoment (sampleListing token) (.json 200 (.array [sampleUser.toJson]))) ∧
      ((inMemory sampleConfig 10 4).handle sampleMoment (sampleListing token) (sampleStores "first")).1 =
        ((inMemory sampleConfig 10 4).handle sampleMoment (sampleListing token) (sampleStores "second")).1 := by
  generalize htoken : sampleConfig.minted .access sampleUser.subject ⟨0, 0⟩ ⟨900, 0⟩ ⟨1⟩ = token
  have hreadable : Http.isReadable token = true := htoken ▸ RequestReader.isReadable_sign _ _
  have hbearer : RequestReader.bearer (sampleListing token) = .ok token :=
    RequestReader.bearer_of_first? (Http.Headers.first?_cons_self ..) hreadable
  have hexpiry : (⟨0, 0⟩ : Instant).add? (sampleConfig.lifetime .access) = some ⟨900, 0⟩ := by decide
  have hbears : Bears sampleConfig sampleMoment (sampleListing token)
      (Claims.minted sampleUser.subject ⟨0, 0⟩ ⟨900, 0⟩ (Uuid.render ⟨1⟩)) := by
    refine ⟨token, hbearer, ?_⟩
    rw [← htoken]
    exact (sampleConfig.verify_minted_eq_ok_iff .access hexpiry).mpr ⟨by decide, fun _ => by decide, rfl⟩
  have hagree : (sampleStores "first").AgreeButHashes (sampleStores "second") := ⟨rfl, rfl⟩
  obtain ⟨halike, -⟩ := password_hashes_stay_hidden sampleConfig 10 4 sampleMoment
    (sampleListing_not_asks token (by decide)) (sampleListing_not_asks token (by decide)) hagree
  have hne : sampleStores "first" ≠ sampleStores "second" := fun h =>
    absurd (congrArg (fun mem : Memory => mem.users.users.map (·.passwordHash)) h) (by simp [sampleStores])
  refine ⟨token, _, hbears, rfl, hne, ?_, halike⟩
  have hquery : RequestReader.query (sampleListing token) = .ok {} := rfl
  have hlist : (inMemory sampleConfig 10 4).answerGuarded sampleMoment (sampleListing token)
      (Claims.minted sampleUser.subject ⟨0, 0⟩ ⟨900, 0⟩ (Uuid.render ⟨1⟩)) .users (sampleStores "first") =
      (.ok (.json 200 (.array [sampleUser.toJson])), sampleStores "first") := by
    rw [answerGuarded, Handler.need_bind_apply, hquery]
    rfl
  have hasks : (sampleListing token).Asks (.guarded .users) := ⟨rfl, rfl⟩
  have hhandle := handle_guarded (s := inMemory sampleConfig 10 4) hasks hbears (sampleStores "first")
  rw [hlist] at hhandle
  rw [hhandle]
  rfl

end Server

end Gatehouse

import Gatehouse.Proofs.Server.Registering
import Gatehouse.Proofs.Users.Runs

/-!
# What registrations keep in order

Clients register at the same time over stores that are empty at first, their moves in any order. Four
invariants say what the moves keep:

* `Roster`: the accounts are those that the log says were made, at most one for each client;
* `Honest`: the accounts are what their clients asked for, and whoever is refused is refused for a cause;
* `Numbered`: no two accounts share an id, a username or an email, and the first one is the admin's;
* `Recorded`: the token records are those of the clients that are answered with tokens.

Each is kept by every move (`step_effect`), and so all hold after every run (`invariant_run`).
-/

namespace Gatehouse.Registering

variable {c : Contest} {w w' : World} {m : Move} {e : Event} {events : List Event} {ids : List String}

/-! ### What a log says -/

/-- The account that an event makes, and for whom. -/
def Event.made? : Event → Option (Nat × StoredUser)
  | .made client row => some (client, row)
  | _ => none

/-- The client whose account an event makes, or fails to make. -/
def Event.creator? : Event → Option Nat
  | .made client _ | .collided client => some client
  | .silent => none

/-- The accounts that were made, and for whom, oldest first. -/
def made (events : List Event) : List (Nat × StoredUser) := events.filterMap Event.made?

/-- The clients who had accounts made, or failed to, one after the other. -/
def creators (events : List Event) : List Nat := events.filterMap Event.creator?

@[simp] theorem made_silent (events : List Event) : made (events ++ [.silent]) = made events := by
  simp [made, Event.made?]

@[simp] theorem made_collided (events : List Event) (i : Nat) : made (events ++ [.collided i]) = made events := by
  simp [made, Event.made?]

@[simp] theorem made_made (events : List Event) (i : Nat) (row : StoredUser) :
    made (events ++ [.made i row]) = made events ++ [(i, row)] := by
  simp [made, Event.made?]

@[simp] theorem creators_silent (events : List Event) : creators (events ++ [.silent]) = creators events := by
  simp [creators, Event.creator?]

@[simp] theorem creators_collided (events : List Event) (i : Nat) :
    creators (events ++ [.collided i]) = creators events ++ [i] := by
  simp [creators, Event.creator?]

@[simp] theorem creators_made (events : List Event) (i : Nat) (row : StoredUser) :
    creators (events ++ [.made i row]) = creators events ++ [i] := by
  simp [creators, Event.creator?]

/-! ### The accounts that were made -/

/-- The accounts are those that were made, at most one for each client, and the client whose turn it was first
made the first. -/
structure Roster (events : List Event) (w : World) : Prop where
  rows : w.memory.users.users = (made events).map (·.2)
  clients : ((made events).map (·.1)).Nodup
  holds : ∀ i user, (w.stage i).user? = some user ↔ ∃ row, (i, row) ∈ made events ∧ row.user = user
  first : (creators events).head? = ((made events).map (·.1)).head?

/-- What holds of all clients and of the stage that one comes to, holds of all clients then. -/
theorem forall_enter {P : Nat → Stage → Prop} {i : Nat} {stage : Stage} (hi : P i stage)
    (h : ∀ j, P j (w.stage j)) (j : Nat) : P j ((w.enter i stage).stage j) := by
  by_cases hj : j = i
  · subst hj
    rw [enter_stage_self]
    exact hi
  · rw [enter_stage_of_ne _ _ hj]
    exact h j

/-- A client comes to another stage with the same account. -/
theorem user?_enter {i : Nat} {stage : Stage} (h : stage.user? = (w.stage i).user?) :
    ∀ j, ((w.enter i stage).stage j).user? = (w.stage j).user? :=
  forall_enter (P := fun j stage => stage.user? = (w.stage j).user?) h fun _ => rfl

namespace Roster

theorem start : Roster [] {} where
  rows := rfl
  clients := .nil
  holds := fun _ _ => ⟨nofun, nofun⟩
  first := rfl

/-- Moves that make no account keep the roster, as long as no client's account changes. -/
theorem keep (h : Roster events w) (hmade : made (events ++ [e]) = made events)
    (hcreators : (creators (events ++ [e])).head? = (creators events).head?)
    (husers : w'.memory.users = w.memory.users) (hholds : ∀ i, (w'.stage i).user? = (w.stage i).user?) :
    Roster (events ++ [e]) w' where
  rows := by rw [hmade, husers, h.rows]
  clients := by
    rw [hmade]
    exact h.clients
  holds i user := by
    rw [hmade, hholds]
    exact h.holds i user
  first := by
    rw [hmade, hcreators]
    exact h.first

/-- Nobody notices that a client comes to another stage with the same account. -/
theorem enter (h : Roster events w) {i : Nat} {stage : Stage} (hstage : stage.user? = (w.stage i).user?) :
    Roster (events ++ [.silent]) (w.enter i stage) :=
  h.keep (made_silent events) (by rw [creators_silent]) rfl (user?_enter hstage)

/-- Where something is taken there is an account, and so a first client. -/
theorem creators_ne_nil (h : Roster events w) {username : String} {email : Option String}
    (htaken : w.memory.users.taken username email = true) : creators events ≠ [] := by
  intro hnil
  obtain ⟨row, hrow, -⟩ := List.any_eq_true.mp htaken
  have hfirst := h.first
  rw [hnil] at hfirst
  have hnone : (made events).map (·.1) = [] := List.head?_eq_none_iff.mp hfirst.symm
  rw [h.rows, List.map_eq_nil_iff.mp hnone] at hrow
  exact List.not_mem_nil hrow

/-- A client that has no account yet is not in the roster. -/
theorem not_mem (h : Roster events w) {i : Nat} (hi : (w.stage i).user? = none) : i ∉ (made events).map (·.1) := by
  intro hmem
  obtain ⟨⟨j, row⟩, hrow, rfl⟩ := List.mem_map.mp hmem
  have huser := (h.holds j row.user).mpr ⟨row, hrow, rfl⟩
  exact absurd (hi.symm.trans huser) nofun

/-- A client that has no account yet may have one made. -/
theorem make (h : Roster events w) {i : Nat} (hi : (w.stage i).user? = none) (row : StoredUser) :
    Roster (events ++ [.made i row]) (w.make i row) where
  rows := by
    rw [made_made, List.map_append, ← h.rows]
    rfl
  clients := by
    rw [made_made, List.map_append]
    refine List.nodup_append.mpr ⟨h.clients, List.nodup_singleton i, ?_⟩
    rintro j hj k hk rfl
    obtain rfl := List.mem_singleton.mp hk
    exact h.not_mem hi hj
  holds j user := by
    have hold := h.holds j user
    rw [made_made, World.make]
    by_cases hj : j = i
    · subst hj
      have hnew : ∀ row', (j, row') ∉ made events := fun row' hmem => h.not_mem hi (List.mem_map_of_mem hmem)
      rw [enter_stage_self]
      simp [Stage.user?, hnew]
    · rw [enter_stage_of_ne _ _ hj]
      simp [hold, hj]
  first := by
    rw [made_made, creators_made, List.map_append, List.head?_append, List.head?_append, h.first]
    rfl

/-- Every account that was made has its place among the accounts. -/
theorem exists_index (h : Roster events w) {i : Nat} {row : StoredUser} (hmem : (i, row) ∈ made events) :
    ∃ n : Nat, (made events)[n]? = some (i, row) ∧ w.memory.users.users[n]? = some row := by
  obtain ⟨n, hn⟩ := List.mem_iff_getElem?.mp hmem
  refine ⟨n, hn, ?_⟩
  rw [h.rows, List.getElem?_map, hn]
  rfl

/-- Accounts of different clients are apart. -/
theorem apart (h : Roster events w) (horderly : w.memory.users.Orderly) {i j : Nat} {a b : StoredUser}
    (ha : (i, a) ∈ made events) (hb : (j, b) ∈ made events) (hne : i ≠ j) : a.Apart b := by
  obtain ⟨n, hn, hrow⟩ := h.exists_index ha
  obtain ⟨k, hk, hrow'⟩ := h.exists_index hb
  refine horderly.apart_of_ne hrow hrow' ?_
  rintro rfl
  obtain ⟨hij, -⟩ := Prod.mk.inj (Option.some.inj (hn.symm.trans hk))
  exact hne hij

/-- **A move keeps the roster.** -/
theorem step (h : Roster events w) (effect : Effect c w m e w') : Roster (events ++ [e]) w' := by
  cases effect with
  | idle => exact h.keep (made_silent events) (by rw [creators_silent]) rfl fun _ => rfl
  | rejected stage | taken stage | cleared stage | unhashed stage | hashed stage | stranded stage =>
    refine h.enter ?_
    rw [stage]
    rfl
  | issued stage issue =>
    obtain ⟨_, expiry, -, -, -, rfl⟩ := TokenConfig.of_issue_eq_ok issue
    refine h.keep (made_silent events) (by rw [creators_silent]) rfl fun j => ?_
    exact user?_enter (w := w) (by rw [stage]; rfl) j
  | @collided i now id order hash message stage taken =>
    have hcreators : (creators (events ++ [.collided i])).head? = (creators events).head? := by
      rw [creators_collided, List.head?_append_of_ne_nil _ (h.creators_ne_nil taken)]
    exact h.keep (made_collided events i) hcreators rfl (user?_enter (by rw [stage]; rfl))
  | made stage => exact h.make (by rw [stage]; rfl) _

end Roster

/-! ### Why clients are refused -/

/-- An account has what an order asks for: the username, or the email if there is one. -/
def Clashes (order : Registration) (user : User) : Prop :=
  user.username = order.username ∨ ∃ email, order.email = some email ∧ user.email = some email

/-- Something is taken if an account clashes. -/
theorem taken_iff {d : Directory} {order : Registration} :
    d.taken order.username order.email = true ↔ ∃ row ∈ d.users, Clashes order row.user := by
  rw [Directory.taken, List.any_eq_true]
  refine exists_congr fun row => and_congr_right fun _ => ?_
  rw [Bool.or_eq_true, decide_eq_true_eq, Bool.and_eq_true, decide_eq_true_eq]
  refine or_congr_right ?_
  cases order.email with
  | none => simp
  | some email => simp

/-- An account is what a client wished for, with the hash of the client's own password. -/
def Fulfils (c : Contest) (i : Nat) (row : StoredUser) : Prop :=
  ∃ order salt, (c.wish i).tidy = .ok order ∧ hashPassword c.hashCost salt order.password = .ok row.passwordHash ∧
    row.user.username = order.username ∧ row.user.name = order.name ∧ row.user.email = order.email

/-- Why a client is refused. -/
inductive Cause (c : Contest) (events : List Event) (i : Nat) : Refusal → Prop where
  /-- Its form is not in order. -/
  | form {e : Refusal} (tidy : (c.wish i).tidy = .error e) : Cause c events i e
  /-- Its password could not be hashed. -/
  | hashing {order : Registration} {salt : Crypto.Bcrypt.Salt} {fault : AuthError}
      (tidy : (c.wish i).tidy = .ok order) (unhashed : hashPassword c.hashCost salt order.password = .error fault) :
      Cause c events i (.ofAuthError fault)
  /-- It clashes with an account that was made. -/
  | clash {order : Registration} {message : String} {j : Nat} {row : StoredUser}
      (tidy : (c.wish i).tidy = .ok order) (made : (j, row) ∈ made events) (clashes : Clashes order row.user) :
      Cause c events i (.conflict message)

/-- A client has come to a stage for a reason. -/
def Admits (c : Contest) (events : List Event) (i : Nat) : Stage → Prop
  | .cleared order => (c.wish i).tidy = .ok order
  | .hashed order hash =>
    (c.wish i).tidy = .ok order ∧ ∃ salt, hashPassword c.hashCost salt order.password = .ok hash
  | .answered (.error e) => Cause c events i e
  | _ => True

/-- A reason stays one. -/
theorem Admits.concat {i : Nat} {stage : Stage} (h : Admits c events i stage) (e : Event) :
    Admits c (events ++ [e]) i stage := by
  have hmade : ∀ x ∈ made events, x ∈ made (events ++ [e]) := by
    intro x hx
    rw [made, List.filterMap_append]
    exact List.mem_append_left _ hx
  cases stage with
  | answered answer =>
    cases answer with
    | ok p => trivial
    | error refusal =>
      have hcause : Cause c events i refusal := h
      cases hcause with
      | form tidy => exact .form tidy
      | hashing tidy unhashed => exact .hashing tidy unhashed
      | clash tidy made clashes => exact .clash tidy (hmade _ made) clashes
  | _ => exact h

/-- What is taken was taken by an account that was made. -/
theorem Cause.of_taken (hroster : Roster events w) {i : Nat} {order : Registration} {message : String}
    (htidy : (c.wish i).tidy = .ok order) (htaken : w.memory.users.taken order.username order.email = true) :
    Cause c events i (.conflict message) := by
  obtain ⟨row, hrow, hclashes⟩ := taken_iff.mp htaken
  rw [hroster.rows] at hrow
  obtain ⟨⟨j, row⟩, hmade, rfl⟩ := List.mem_map.mp hrow
  exact .clash htidy hmade hclashes

/-- A form that is not in order is refused as such. -/
theorem status_of_tidy_eq_error {wish : Registration} {e : Refusal} (h : wish.tidy = .error e) :
    e.status = 400 := by
  rw [Registration.tidy] at h
  split at h
  · obtain rfl := Except.error.inj h
    rfl
  · rcases of_bind_eq_error h with hpassword | ⟨_, -, hrest⟩
    · rw [checkNewPassword] at hpassword
      split at hpassword
      · obtain rfl := Except.error.inj hpassword
        rfl
      · exact absurd hpassword (by simp)
    · exact absurd hrest (by simp [pure, Except.pure])

/-- What goes wrong in hashing goes wrong inside. -/
theorem status_of_hashPassword_eq_error {cost : Nat} {salt : Crypto.Bcrypt.Salt} {password : String} {e : AuthError}
    (h : hashPassword cost salt password = .error e) : (Refusal.ofAuthError e).status = 500 := by
  rw [hashPassword] at h
  cases hhash : Crypto.Bcrypt.hash cost salt password with
  | ok hash =>
    rw [hhash] at h
    exact absurd h nofun
  | error fault =>
    rw [hhash] at h
    obtain rfl := Except.error.inj h
    rfl

/-- A password can be hashed at every cost that is allowed. -/
theorem costAllowed_of_hashPassword_eq_error {cost : Nat} {salt : Crypto.Bcrypt.Salt} {password : String}
    {e : AuthError} (h : hashPassword cost salt password = .error e) : Crypto.Bcrypt.costAllowed cost = false := by
  cases hcost : Crypto.Bcrypt.costAllowed cost with
  | false => rfl
  | true =>
    rw [hashPassword, Crypto.Bcrypt.hash, hcost] at h
    exact absurd h nofun

/-- Only a clash is refused as a conflict. -/
theorem Cause.clash_of_status {i : Nat} {refusal : Refusal} (h : Cause c events i refusal)
    (hstatus : refusal.status = 409) :
    ∃ order, (c.wish i).tidy = .ok order ∧ ∃ j row, (j, row) ∈ made events ∧ Clashes order row.user := by
  cases h with
  | form tidy =>
    have hform := status_of_tidy_eq_error tidy
    omega
  | hashing _ unhashed =>
    have hinternal := status_of_hashPassword_eq_error unhashed
    omega
  | clash tidy made clashes => exact ⟨_, tidy, _, _, made, clashes⟩

/-- The clients come to their stages for a reason, and the accounts are what they wished for. -/
structure Honest (c : Contest) (events : List Event) (w : World) : Prop where
  admits : ∀ i, Admits c events i (w.stage i)
  fulfils : ∀ i row, (i, row) ∈ made events → Fulfils c i row

namespace Honest

theorem start : Honest c [] {} where
  admits := fun _ => trivial
  fulfils := fun _ _ h => absurd h List.not_mem_nil

/-- A client may come to a stage for a reason. -/
theorem enter (h : Honest c events w) {i : Nat} {stage : Stage} (hmade : made (events ++ [e]) = made events)
    (hadmits : Admits c events i stage) : Honest c (events ++ [e]) (w.enter i stage) where
  admits := forall_enter (hadmits.concat e) fun j => (h.admits j).concat e
  fulfils i row hrow := by
    rw [hmade] at hrow
    exact h.fulfils i row hrow

/-- An account may be made that is what its client wished for. -/
theorem make (h : Honest c events w) {i : Nat} {row : StoredUser} (hrow : Fulfils c i row) :
    Honest c (events ++ [.made i row]) (w.make i row) where
  admits := forall_enter trivial fun j => (h.admits j).concat _
  fulfils j row' hrow' := by
    rw [made_made] at hrow'
    rcases List.mem_append.mp hrow' with hold | hnew
    · exact h.fulfils j row' hold
    · obtain ⟨rfl, rfl⟩ := Prod.mk.inj (List.mem_singleton.mp hnew)
      exact hrow

/-- **A move keeps clients honest.** -/
theorem step (h : Honest c events w) (hroster : Roster events w) (effect : Effect c w m e w') :
    Honest c (events ++ [e]) w' := by
  cases effect with
  | idle => exact ⟨fun j => (h.admits j).concat _, by rw [made_silent]; exact h.fulfils⟩
  | rejected _ tidy => exact h.enter (made_silent events) (.form tidy)
  | @unhashed i salt order fault stage unhashed =>
    have hadmits := h.admits i
    rw [stage] at hadmits
    exact h.enter (made_silent events) (.hashing hadmits unhashed)
  | taken _ tidy taken => exact h.enter (made_silent events) (.of_taken hroster tidy taken)
  | cleared _ tidy => exact h.enter (made_silent events) tidy
  | @hashed i salt order hash stage hashed =>
    have htidy := h.admits i
    rw [stage] at htidy
    exact h.enter (made_silent events) ⟨htidy, salt, hashed⟩
  | @collided i now id order hash message stage taken =>
    have hadmits := h.admits i
    rw [stage] at hadmits
    exact h.enter (made_collided events i) (.of_taken hroster hadmits.1 taken)
  | @made i now id order hash stage free =>
    have hadmits := h.admits i
    rw [stage] at hadmits
    obtain ⟨htidy, salt, hhash⟩ := hadmits
    exact h.make ⟨order, salt, htidy, hhash, rfl, rfl, rfl⟩
  | @issued i now draws user tokens memory =>
    have hsame : Honest c events { w with memory } := ⟨h.admits, h.fulfils⟩
    have hadmits : Admits c events i (.answered (.ok ⟨user, tokens⟩)) := trivial
    exact hsame.enter (made_silent events) hadmits
  | stranded => exact h.enter (made_silent events) trivial

end Honest

/-! ### The accounts in order -/

/-- The accounts are in order, and each has an id that was drawn. -/
structure Numbered (ids : List String) (w : World) : Prop where
  orderly : w.memory.users.Orderly
  drawn : ∀ x ∈ w.memory.users.identities, x.id ∈ ids

namespace Numbered

theorem start : Numbered [] {} where
  orderly := Directory.orderly_empty
  drawn := fun _ h => absurd h List.not_mem_nil

/-- **A move keeps the accounts in order**, if the id that it draws is new. -/
theorem step (h : Numbered ids w) (hnew : ∀ id ∈ m.newId?, id ∉ ids) (effect : Effect c w m e w') :
    Numbered (ids ++ m.newId?.toList) w' := by
  have hkeep (husers : w'.memory.users = w.memory.users) : Numbered (ids ++ m.newId?.toList) w' := by
    refine ⟨husers ▸ h.orderly, fun x hx => ?_⟩
    rw [husers] at hx
    exact List.mem_append_left _ (h.drawn x hx)
  cases effect with
  | @made i now id order hash stage free =>
    have hid : ∀ x ∈ w.memory.users.identities, x.id ≠ id := by
      rintro x hx rfl
      exact hnew x.id rfl (h.drawn x hx)
    have horderly : (w.memory.users.add
        ⟨w.memory.users.account (order.newUser hash) now id, (order.newUser hash).passwordHash⟩).Orderly :=
      h.orderly.add free hid now
    refine ⟨horderly, fun x hx => ?_⟩
    have hx : x ∈ (w.memory.users.add
        ⟨w.memory.users.account (order.newUser hash) now id, hash⟩).identities := hx
    rw [Directory.identities_add] at hx
    rcases List.mem_append.mp hx with hold | hadded
    · exact List.mem_append_left _ (h.drawn x hold)
    · obtain rfl := List.mem_singleton.mp hadded
      exact List.mem_append_right _ (List.mem_singleton_self id)
  | issued _ issue =>
    obtain ⟨_, expiry, -, -, -, rfl⟩ := TokenConfig.of_issue_eq_ok issue
    exact hkeep rfl
  | _ => exact hkeep rfl

end Numbered

/-! ### The records that are kept -/

/-- The records are those of the clients that are answered. -/
structure Recorded (w : World) : Prop where
  kept : ∀ i p, w.stage i = .answered (.ok p) → w.memory.records.find p.user.id = some p.tokens.record
  only : ∀ key record, w.memory.records.find key = some record →
    ∃ i p, w.stage i = .answered (.ok p) ∧ p.user.id = key ∧ p.tokens.record = record

namespace Recorded

theorem start : Recorded {} where
  kept := fun _ _ h => absurd h nofun
  only := fun _ _ h => absurd h nofun

/-- A client that has no tokens may come to another stage without. -/
theorem enter (h : Recorded w) {i : Nat} {stage : Stage} (hold : ∀ p, w.stage i ≠ .answered (.ok p))
    (hnew : ∀ p, stage ≠ .answered (.ok p)) : Recorded (w.enter i stage) where
  kept := by
    refine forall_enter (P := fun _ stage => ∀ p, stage = .answered (.ok p) →
      w.memory.records.find p.user.id = some p.tokens.record) ?_ h.kept
    exact fun p hp => absurd hp (hnew p)
  only key record hfind := by
    obtain ⟨j, p, hp, hrecord⟩ := h.only key record hfind
    have hj : j ≠ i := by
      rintro rfl
      exact hold p hp
    exact ⟨j, p, (enter_stage_of_ne w stage hj).trans hp, hrecord⟩

/-- A client that has no tokens may have an account made. -/
theorem make (h : Recorded w) {i : Nat} (hold : ∀ p, w.stage i ≠ .answered (.ok p)) (row : StoredUser) :
    Recorded (w.make i row) := by
  have hsame : Recorded { w with memory := { w.memory with users := w.memory.users.add row } } :=
    ⟨h.kept, h.only⟩
  exact hsame.enter hold fun p => nofun

/-- A client that is issued tokens has their record, if no one else has the same id. -/
theorem issue (h : Recorded w) {i : Nat} {now : Instant} {draws : TokenDraws} {user : User}
    {tokens : IssuedTokens} {memory : Memory} (hstage : w.stage i = .created user)
    (hissue : c.tokens.issue Memory.recordAccess user.subject now draws w.memory = (.ok tokens, memory))
    (hothers : ∀ j p, w.stage j = .answered (.ok p) → p.user.id ≠ user.id) :
    Recorded ({ w with memory }.enter i (.answered (.ok ⟨user, tokens⟩))) where
  kept := by
    have hfind := TokenConfig.find_of_issue hissue
    refine forall_enter (w := { w with memory }) (P := fun _ stage => ∀ p, stage = .answered (.ok p) →
      memory.records.find p.user.id = some p.tokens.record) ?_ ?_
    · intro p hp
      obtain rfl := Except.ok.inj (Stage.answered.inj hp)
      exact (hfind user.id).trans (if_pos rfl)
    · intro j p hp
      exact ((hfind p.user.id).trans (if_neg (hothers j p hp))).trans (h.kept j p hp)
  only key record hfound := by
    have hfound : memory.records.find key = some record := hfound
    rw [TokenConfig.find_of_issue hissue] at hfound
    by_cases hkey : key = user.subject.id
    · rw [if_pos hkey] at hfound
      exact ⟨i, ⟨user, tokens⟩, enter_stage_self _ _ _, hkey.symm, Option.some.inj hfound⟩
    · rw [if_neg hkey] at hfound
      obtain ⟨j, p, hp, hrecord⟩ := h.only key record hfound
      have hj : j ≠ i := by
        rintro rfl
        exact absurd (hstage.symm.trans hp) nofun
      exact ⟨j, p, (enter_stage_of_ne _ _ hj).trans hp, hrecord⟩

/-- **A move keeps the records.** -/
theorem step (h : Recorded w) (hroster : Roster events w) (hnumbered : Numbered ids w)
    (effect : Effect c w m e w') : Recorded w' := by
  cases effect with
  | idle => exact h
  | rejected stage | taken stage | cleared stage | unhashed stage | hashed stage | collided stage
  | stranded stage =>
    refine h.enter ?_ (fun p => nofun)
    rw [stage]
    exact fun p => nofun
  | made stage =>
    refine h.make ?_ _
    rw [stage]
    exact fun p => nofun
  | @issued i now draws user tokens memory stage issue =>
    refine h.issue stage issue fun j p hp => ?_
    obtain ⟨row, hrow, rfl⟩ := (hroster.holds i user).mp (by rw [stage]; rfl)
    obtain ⟨other, hother, hp_user⟩ := (hroster.holds j p.user).mp (by rw [hp]; rfl)
    have hne : j ≠ i := by
      rintro rfl
      exact absurd (stage.symm.trans hp) nofun
    rw [← hp_user]
    exact (hroster.apart hnumbered.orderly hother hrow hne).id

end Recorded

/-! ### Runs -/

/-- All that moves keep. -/
structure Invariant (c : Contest) (ids : List String) (events : List Event) (w : World) : Prop where
  roster : Roster events w
  honest : Honest c events w
  numbered : Numbered ids w
  recorded : Recorded w

/-- **After every run from empty stores all is in order**, if no id is drawn twice. -/
theorem invariant_run (c : Contest) (moves : List Move) (hids : (moves.filterMap Move.newId?).Nodup) :
    Invariant c (moves.filterMap Move.newId?) (log c {} moves) (run c {} moves) := by
  induction moves using List.reverseRecOn with
  | nil => exact ⟨.start, .start, .start, .start⟩
  | append_singleton moves m ih =>
    have hone : [m].filterMap Move.newId? = m.newId?.toList := by
      cases h : m.newId? <;> simp [h]
    rw [List.filterMap_append, hone] at hids ⊢
    obtain ⟨hold, -, hnew⟩ := List.nodup_append.mp hids
    have h := ih hold
    have heffect := step_effect c (run c {} moves) m
    rw [run_concat, log_concat]
    refine ⟨h.roster.step heffect, h.honest.step h.roster heffect, h.numbered.step ?_ heffect,
      h.recorded.step h.roster h.numbered heffect⟩
    intro id hid hmem
    exact hnew id hmem id (Option.mem_toList.mpr hid) rfl

end Gatehouse.Registering

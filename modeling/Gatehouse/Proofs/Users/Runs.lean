import Gatehouse.Proofs.Server.Services

/-!
# Accounts over time

Operations on the accounts in memory, one after the other, starting from no accounts. What a single one can do
is said once (`Accounts.Step`): it leaves the stores as they are, adds one account at the end, or changes one
account where it stands. So whatever is asked, and in whatever order,

* any two accounts are `Apart`: they share no id, no username and no email;
* the accounts are those that were created, in that order, and what is fixed of an account
  (`User.identity`) stays as it was (`Accounts.identities_run`);

and each operation changes at most the account that it names (`Accounts.operations_keep_accounts_apart`).
-/

namespace Gatehouse

/-- What of an account never changes. -/
structure Identity where
  id : String
  username : String
  role : String
  createdAt : Instant
  deriving DecidableEq, Repr

/-- What of an account never changes. -/
def User.identity (u : User) : Identity := ⟨u.id, u.username, u.role, u.createdAt⟩

/-- Two accounts share no id, no username and no email. -/
structure StoredUser.Apart (a b : StoredUser) : Prop where
  id : a.user.id ≠ b.user.id
  username : a.user.username ≠ b.user.username
  email : ∀ email ∈ a.user.email, email ∉ b.user.email

theorem StoredUser.Apart.symm {a b : StoredUser} (h : a.Apart b) : b.Apart a :=
  ⟨h.id.symm, h.username.symm, fun email hb ha => h.email email ha hb⟩

/-- Accounts at different places of a list in which any two are apart. -/
theorem StoredUser.Apart.of_pairwise {rows : List StoredUser} (h : rows.Pairwise StoredUser.Apart) {i j : Nat}
    {a b : StoredUser} (ha : rows[i]? = some a) (hb : rows[j]? = some b) (hne : i ≠ j) : a.Apart b := by
  obtain ⟨hi, rfl⟩ := List.getElem?_eq_some_iff.mp ha
  obtain ⟨hj, rfl⟩ := List.getElem?_eq_some_iff.mp hb
  have hapart := List.pairwise_iff_getElem.mp h
  rcases Nat.lt_or_gt_of_ne hne with hlt | hgt
  · exact hapart i j hi hj hlt
  · exact (hapart j i hj hi hgt).symm

/-- In a list whose entries are pairwise related, one may be replaced by what is related to all others. -/
theorem pairwise_set {α : Type} {R : α → α → Prop} (hsymm : ∀ a b, R a b → R b a) {xs : List α}
    {i : Nat} {x : α} (h : xs.Pairwise R) (hx : ∀ (j : Nat) y, xs[j]? = some y → j ≠ i → R y x) :
    (xs.set i x).Pairwise R := by
  rw [List.pairwise_iff_getElem] at h ⊢
  intro p q hp hq hpq
  rw [List.length_set] at hp hq
  rw [List.getElem_set, List.getElem_set]
  have hget (j : Nat) (hj : j < xs.length) : xs[j]? = some xs[j] := List.getElem?_eq_getElem hj
  by_cases hip : i = p
  · rw [if_pos hip, if_neg (by omega)]
    exact hsymm _ _ (hx q _ (hget q hq) (by omega))
  · rw [if_neg hip]
    by_cases hiq : i = q
    · rw [if_pos hiq]
      exact hx p _ (hget p hp) (by omega)
    · rw [if_neg hiq]
      exact h p q hp hq hpq

namespace Directory

/-- No two accounts share an id, a username or an email, and only the first account is an admin. -/
structure Orderly (d : Directory) : Prop where
  apart : d.users.Pairwise StoredUser.Apart
  role : ∀ (i : Nat) row, d.users[i]? = some row → row.user.role = roleAt i

variable {d : Directory}

theorem orderly_empty : Orderly {} := ⟨.nil, fun _ _ h => absurd h (by simp)⟩

/-- The fixed parts of all accounts, oldest first. -/
def identities (d : Directory) : List Identity := d.users.map (·.user.identity)

theorem identities_add (d : Directory) (u : StoredUser) :
    (d.add u).identities = d.identities ++ [u.user.identity] := List.map_append

/-- An account that is changed where it stands keeps what is fixed of it. -/
theorem identities_set {i : Nat} {row row' : StoredUser} (hrow : d.users[i]? = some row)
    (hsame : row'.user.identity = row.user.identity) : identities ⟨d.users.set i row'⟩ = d.identities :=
  map_set_eq hrow hsame

namespace Orderly

/-- Accounts at different places are apart. -/
theorem apart_of_ne (h : d.Orderly) {i j : Nat} {a b : StoredUser} (ha : d.users[i]? = some a)
    (hb : d.users[j]? = some b) (hne : i ≠ j) : a.Apart b := .of_pairwise h.apart ha hb hne

/-- An account may be added if its username, email and id are new. -/
theorem add (h : d.Orderly) {new : NewUser} {id : String} (hfree : d.taken new.username new.email = false)
    (hid : ∀ x ∈ d.identities, x.id ≠ id) (now : Instant) :
    (d.add ⟨d.account new now id, new.passwordHash⟩).Orderly where
  apart := by
    refine List.pairwise_append.mpr ⟨h.apart, List.pairwise_singleton _ _, ?_⟩
    intro row hrow added hadded
    obtain rfl := List.mem_singleton.mp hadded
    have hrow_free := List.any_eq_false.mp hfree row hrow
    refine ⟨hid _ (List.mem_map_of_mem hrow), ?_, ?_⟩
    · intro husername
      have husername : row.user.username = new.username := husername
      exact hrow_free (by simp [husername])
    · intro email hemail hnew
      have hnew : new.email = some email := hnew
      exact hrow_free (by simp [hnew, Option.mem_def.mp hemail])
  role i row hrow := by
    change (d.users ++ [_])[i]? = some row at hrow
    rcases Nat.lt_or_ge i d.users.length with hi | hi
    · rw [List.getElem?_append_left hi] at hrow
      exact h.role i row hrow
    · rw [List.getElem?_append_right hi, List.getElem?_singleton] at hrow
      obtain ⟨hlast, hadded⟩ := Option.ite_none_right_eq_some.mp hrow
      obtain rfl := Option.some.inj hadded
      obtain rfl : i = d.users.length := by omega
      exact d.role_account new now id

/-- An account may be changed where it stands if its identity stays, and its email stays or is no other's. -/
theorem set (h : d.Orderly) {i : Nat} {row row' : StoredUser} (hrow : d.users[i]? = some row)
    (hsame : row'.user.identity = row.user.identity)
    (hemail : row'.user.email = row.user.email ∨ d.emailTakenByOther row.user.id row'.user.email = false) :
    Orderly ⟨d.users.set i row'⟩ where
  apart := by
    refine pairwise_set (fun _ _ => StoredUser.Apart.symm) h.apart ?_
    intro j other hother hne
    have hapart := h.apart_of_ne hother hrow hne
    have hid : row'.user.id = row.user.id := congrArg Identity.id hsame
    have husername : row'.user.username = row.user.username := congrArg Identity.username hsame
    refine ⟨hid ▸ hapart.id, husername ▸ hapart.username, ?_⟩
    intro email hmine htheirs
    rcases hemail with hkept | hfree
    · exact hapart.email email hmine (hkept ▸ htheirs)
    · -- the check leaves out the account itself by its id, and no other account has that id
      have htheirs := Option.mem_def.mp htheirs
      rw [emailTakenByOther, htheirs, Option.isSome_some, Bool.true_and] at hfree
      have hother_free := List.any_eq_false.mp hfree other (List.mem_of_getElem? hother)
      exact hother_free (by simp [hapart.id, Option.mem_def.mp hmine])
  role j other hother := by
    rcases eq_or_ne i j with rfl | hne
    · obtain ⟨hi, -⟩ := List.getElem?_eq_some_iff.mp hrow
      have hother : (d.users.set i row')[i]? = some other := hother
      rw [List.getElem?_set_self hi] at hother
      obtain rfl := Option.some.inj hother
      have hrole : row'.user.role = row.user.role := congrArg Identity.role hsame
      exact hrole.trans (h.role i row hrow)
    · rw [List.getElem?_set_ne hne] at hother
      exact h.role j other hother

end Orderly

end Directory

namespace Accounts

/-! ### One operation -/

/-- What may be asked of the accounts. -/
inductive Operation where
  | findByUsername (username : String)
  | findById (id : String)
  | taken (username : String) (email : Option String)
  | create (new : NewUser) (now : Instant) (id : String)
  | updateProfile (id : String) (update : ProfileUpdate) (now : Instant)
  | setPasswordHash (id hash : String) (now : Instant)
  | list (page : ListPage)
  deriving DecidableEq, Repr

namespace Operation

/-- The id that is drawn for a new account. -/
def newId? : Operation → Option String
  | create _ _ id => some id
  | _ => none

/-- The id of the account that is to be changed. -/
def target? : Operation → Option String
  | updateProfile id _ _ => some id
  | setPasswordHash id _ _ => some id
  | _ => none

end Operation

/-- What an operation answers. -/
inductive Reply where
  | found (row : Option StoredUser)
  | taken (truth : Bool)
  | created (user : User)
  | updated (user : Option User)
  | rehashed (done : Bool)
  | listed (users : List User)
  deriving DecidableEq, Repr

/-- An operation's answer, or why it failed. -/
abbrev Answer := Except UserError Reply

namespace Answer

/-- The account that was created. -/
def created? : Answer → Option User
  | .ok (.created user) => some user
  | _ => none

/-- An answer that says that an account was created or changed. -/
def reportsChange : Answer → Bool
  | .ok (.created _) => true
  | .ok (.updated user) => user.isSome
  | .ok (.rehashed done) => done
  | _ => false

theorem created?_of_not_reportsChange {answer : Answer} (h : answer.reportsChange = false) :
    answer.created? = none := by
  match answer with
  | .error _ | .ok (.found _) | .ok (.taken _) | .ok (.updated _) | .ok (.rehashed _) | .ok (.listed _) => rfl
  | .ok (.created _) => exact absurd h (by simp [reportsChange])

end Answer

/-- Do what is asked. -/
def perform {σ : Type} (a : UserAccess σ) : Operation → Action σ UserError Reply
  | .findByUsername username => do return .found (← a.findByUsername username)
  | .findById id => do return .found (← a.findById id)
  | .taken username email => do return .taken (← a.taken username email)
  | .create new now id => do return .created (← a.create new now id)
  | .updateProfile id update now => do return .updated (← a.updateProfile id update now)
  | .setPasswordHash id hash now => do return .rehashed (← a.setPasswordHash id hash now)
  | .list page => do return .listed (← a.list page)

variable {before after : Memory}

/-- What an operation can do, and what it answers then. -/
inductive Step (before : Memory) : Operation → Answer → Memory → Prop
  /-- It reads, fails, or finds no account to change. -/
  | unchanged {op : Operation} {answer : Answer} (silent : answer.reportsChange = false) :
    Step before op answer before
  /-- It adds an account at the end. -/
  | created {new : NewUser} {now : Instant} {id : String}
    (free : before.users.taken new.username new.email = false) :
    Step before (.create new now id) (.ok (.created (before.users.account new now id)))
      { before with users := before.users.add ⟨before.users.account new now id, new.passwordHash⟩ }
  /-- It changes the account that it names, where that stands. -/
  | changed {op : Operation} {answer : Answer} {i : Nat} {row row' : StoredUser}
    (found : before.users.users[i]? = some row) (named : op.target? = some row.user.id)
    (same : row'.user.identity = row.user.identity)
    (email : row'.user.email = row.user.email ∨
      before.users.emailTakenByOther row.user.id row'.user.email = false)
    (silent : answer.created? = none) (loud : answer.reportsChange = true) :
    Step before op answer { before with users := ⟨before.users.users.set i row'⟩ }

/-- What an operation does to the accounts in memory is one of these. -/
theorem perform_step (op : Operation) (before : Memory) :
    Step before op (perform Memory.access.users op before).1 (perform Memory.access.users op before).2 := by
  cases op with
  | findByUsername username => exact .unchanged rfl
  | findById id => exact .unchanged rfl
  | taken username email => exact .unchanged rfl
  | list page => exact .unchanged rfl
  | create new now id =>
    rw [perform, Action.bind_pure_apply]
    cases htaken : before.users.taken new.username new.email with
    | false =>
      rw [Memory.create_apply htaken]
      exact .created htaken
    | true =>
      rw [Memory.create_of_taken htaken]
      exact .unchanged rfl
  | updateProfile id update now =>
    rw [perform, Action.bind_pure_apply, Memory.updateProfile_apply]
    rcases hupdate : before.users.updateProfile id update now with ⟨user | _ | _, users⟩
    · have hfree := Directory.emailTakenByOther_of_updateProfile_eq_updated hupdate
      obtain ⟨i, row, hrow, rfl, rfl, rfl⟩ := Directory.of_updateProfile_eq_updated hupdate
      exact .changed hrow rfl rfl (.inr hfree) rfl rfl
    · obtain rfl := Directory.updateProfile_eq_self hupdate nofun
      exact .unchanged rfl
    · obtain rfl := Directory.updateProfile_eq_self hupdate nofun
      exact .unchanged rfl
  | setPasswordHash id hash now =>
    rw [perform, Action.bind_pure_apply, Memory.setPasswordHash_apply]
    cases hfound : before.users.findById id with
    | none =>
      have hnone : before.users.setPasswordHash id hash now = (false, before.users) := by
        rw [Directory.setPasswordHash, hfound]
      rw [hnone]
      exact .unchanged rfl
    | some row =>
      obtain ⟨rfl, -⟩ := Directory.exists_index_of_findById hfound
      obtain ⟨i, hrow, hset, -⟩ := Directory.setPasswordHash_of_findById hfound hash now
      rw [hset]
      exact .changed hrow rfl rfl (.inl rfl) rfl rfl

namespace Step

variable {op : Operation} {answer : Answer}

/-- The accounts stay, in their order and with what is fixed of them, and after them comes the one that was
created. -/
theorem identities (h : Step before op answer after) :
    after.users.identities = before.users.identities ++ answer.created?.toList.map User.identity := by
  cases h with
  | unchanged silent =>
    rw [Answer.created?_of_not_reportsChange silent]
    exact (List.append_nil _).symm
  | created => exact Directory.identities_add _ _
  | changed found _ same _ silent =>
    rw [silent]
    exact (Directory.identities_set found same).trans (List.append_nil _).symm

/-- An account that is created has the id that was drawn for it. -/
theorem id_created (h : Step before op answer after) : ∀ user ∈ answer.created?, op.newId? = some user.id := by
  intro user huser
  cases h with
  | unchanged silent =>
    rw [Answer.created?_of_not_reportsChange silent] at huser
    exact absurd huser nofun
  | created =>
    obtain rfl := Option.some.inj huser
    rfl
  | changed _ _ _ _ silent =>
    rw [silent] at huser
    exact absurd huser nofun

/-- Order is kept if the id that is drawn is new. -/
theorem orderly (h : Step before op answer after) (hbefore : before.users.Orderly)
    (hnew : ∀ x ∈ before.users.identities, op.newId? ≠ some x.id) : after.users.Orderly := by
  cases h with
  | unchanged => exact hbefore
  | created free => exact hbefore.add free (fun x hx hid => hnew x hx (congrArg some hid.symm)) _
  | changed found _ same email => exact hbefore.set found same email

/-- An account that is not named stays as it is, where it is. -/
theorem others_unchanged (h : Step before op answer after) {i : Nat} {row : StoredUser}
    (hrow : before.users.users[i]? = some row) (hother : op.target? ≠ some row.user.id) :
    after.users.users[i]? = some row := by
  cases h with
  | unchanged => exact hrow
  | created =>
    obtain ⟨hi, -⟩ := List.getElem?_eq_some_iff.mp hrow
    exact (List.getElem?_append_left hi).trans hrow
  | @changed _ _ j _ _ found named =>
    have hne : j ≠ i := by
      rintro rfl
      obtain rfl := Option.some.inj (found.symm.trans hrow)
      exact hother named
    exact (List.getElem?_set_ne hne).trans hrow

/-- Where no change is reported there is none. -/
theorem eq_of_not_reportsChange (h : Step before op answer after) (hsilent : answer.reportsChange = false) :
    after = before := by
  cases h with
  | unchanged => rfl
  | created => exact absurd hsilent nofun
  | changed _ _ _ _ _ loud => exact absurd (hsilent.symm.trans loud) nofun

end Step

/-! ### One operation after the other -/

/-- The stores after some operations. -/
def run (before : Memory) (ops : List Operation) : Memory :=
  ops.foldl (fun mem op => (perform Memory.access.users op mem).2) before

/-- What some operations answer, one after the other. -/
def answers (before : Memory) : List Operation → List Answer
  | [] => []
  | op :: ops =>
    (perform Memory.access.users op before).1 :: answers (perform Memory.access.users op before).2 ops

/-- The accounts that some operations create, in that order. -/
def created (before : Memory) (ops : List Operation) : List User :=
  (answers before ops).filterMap Answer.created?

theorem run_append (before : Memory) (ops more : List Operation) :
    run before (ops ++ more) = run (run before ops) more := List.foldl_append

theorem created_cons (before : Memory) (op : Operation) (ops : List Operation) :
    created before (op :: ops) = (Answer.created? (perform Memory.access.users op before).1).toList ++
      created (perform Memory.access.users op before).2 ops := by
  rw [created, created, answers, List.filterMap_cons]
  cases Answer.created? (perform Memory.access.users op before).1 with
  | none => rfl
  | some user => rfl

/-- **Accounts stay, in the order in which they were created.** After any operations come those that the
operations created, and what is fixed of the earlier ones is as before. -/
theorem identities_run (before : Memory) (ops : List Operation) :
    (run before ops).users.identities =
      before.users.identities ++ (created before ops).map User.identity := by
  induction ops generalizing before with
  | nil => exact (List.append_nil _).symm
  | cons op ops ih =>
    have hstep := (perform_step op before).identities
    rw [created_cons, List.map_append, ← List.append_assoc, ← hstep]
    exact ih _

/-- Operations that draw new ids, and none twice, keep the accounts in order. -/
theorem orderly_run {before : Memory} {ops : List Operation} (hbefore : before.users.Orderly)
    (hids : (ops.filterMap Operation.newId?).Nodup)
    (hnew : ∀ x ∈ before.users.identities, x.id ∉ ops.filterMap Operation.newId?) :
    (run before ops).users.Orderly := by
  induction ops generalizing before with
  | nil => exact hbefore
  | cons op ops ih =>
    have hstep := perform_step op before
    have hsub : (ops.filterMap Operation.newId?).Sublist ((op :: ops).filterMap Operation.newId?) :=
      (List.sublist_cons_self op ops).filterMap _
    have hopNew : ∀ x ∈ before.users.identities, op.newId? ≠ some x.id := by
      intro x hx hid
      exact hnew x hx (List.mem_filterMap.mpr ⟨op, List.mem_cons_self, hid⟩)
    refine ih (hstep.orderly hbefore hopNew) (hids.sublist hsub) ?_
    intro x hx hdrawn
    rw [hstep.identities, List.mem_append] at hx
    rcases hx with hold | hcreated
    · exact hnew x hold (hsub.subset hdrawn)
    · -- the id that was just drawn is not drawn again
      obtain ⟨user, huser, rfl⟩ := List.mem_map.mp hcreated
      have hid := hstep.id_created user (Option.mem_toList.mp huser)
      rw [List.filterMap_cons, hid] at hids
      exact (List.nodup_cons.mp hids).1 hdrawn

/-- **Accounts are kept apart and in order.** From no accounts on, whatever is asked, if no id is drawn twice: no
two accounts have one username, one id, or one email; the first one is an admin and every other one a user; the
accounts are those that were created, oldest first, and keep their id, username, role and time of creation
whatever is asked later. And each operation changes at most the account that it names, and none if it fails or
finds no account. -/
theorem operations_keep_accounts_apart (ops : List Operation) (hids : (ops.filterMap Operation.newId?).Nodup) :
    ((run {} ops).users.users.map (·.user.username)).Nodup ∧
      ((run {} ops).users.users.map (·.user.id)).Nodup ∧
      ((run {} ops).users.users.filterMap (·.user.email)).Nodup ∧
      (∀ (i : Nat) row, (run {} ops).users.users[i]? = some row → row.user.role = roleAt i) ∧
      (run {} ops).users.identities = (created {} ops).map User.identity ∧
      (∀ more, (run {} ops).users.identities <+: (run {} (ops ++ more)).users.identities) ∧
      ∀ op answer after, perform Memory.access.users op (run {} ops) = (answer, after) →
        after.users.identities =
            (run {} ops).users.identities ++ (Answer.created? answer).toList.map User.identity ∧
          (∀ (i : Nat) row, (run {} ops).users.users[i]? = some row → op.target? ≠ some row.user.id →
            after.users.users[i]? = some row) ∧
          (Answer.reportsChange answer = false → after = run {} ops) := by
  have horderly : (run {} ops).users.Orderly :=
    orderly_run Directory.orderly_empty hids fun x hx => absurd hx (by simp [Directory.identities])
  refine ⟨?_, ?_, ?_, horderly.role, identities_run {} ops, ?_, ?_⟩
  · exact List.pairwise_map.mpr (horderly.apart.imp StoredUser.Apart.username)
  · exact List.pairwise_map.mpr (horderly.apart.imp StoredUser.Apart.id)
  · refine List.pairwise_filterMap.mpr (horderly.apart.imp ?_)
    rintro a b hapart mine hmine _ htheirs rfl
    exact hapart.email mine hmine htheirs
  · intro more
    rw [run_append, identities_run (run {} ops) more]
    exact List.prefix_append _ _
  · intro op answer after hperform
    have hstep := perform_step op (run {} ops)
    rw [hperform] at hstep
    exact ⟨hstep.identities, fun i row => hstep.others_unchanged, hstep.eq_of_not_reportsChange⟩

/-- Two accounts; the second takes over the email that the first gives up. -/
def sampleOperations : List Operation :=
  [.create ⟨"ada", "Ada", some "ada@x", "h"⟩ ⟨0, 0⟩ "u1",
    .create ⟨"bob", "Bob", some "ada@x", "h"⟩ ⟨1, 0⟩ "u2",
    .create ⟨"bob", "Bob", none, "h"⟩ ⟨2, 0⟩ "u3",
    .updateProfile "u3" ⟨"Bob", some "ada@x"⟩ ⟨3, 0⟩,
    .updateProfile "u1" ⟨"Ada", none⟩ ⟨4, 0⟩,
    .updateProfile "u3" ⟨"Bob", some "ada@x"⟩ ⟨5, 0⟩]

example : (run {} sampleOperations).users.users =
    [⟨⟨"u1", "ada", "Ada", none, "admin", ⟨0, 0⟩, ⟨4, 0⟩⟩, "h"⟩,
      ⟨⟨"u3", "bob", "Bob", some "ada@x", "user", ⟨2, 0⟩, ⟨5, 0⟩⟩, "h"⟩] := by
  decide

/-- The sample operations draw three ids, and leave two accounts apart. -/
theorem sample_operations_keep_accounts_apart :
    (sampleOperations.filterMap Operation.newId?).Nodup ∧
      ((run {} sampleOperations).users.users.filterMap (·.user.email)).Nodup ∧
      (run {} sampleOperations).users.identities = (created {} sampleOperations).map User.identity := by
  have hids : (sampleOperations.filterMap Operation.newId?).Nodup := by decide
  obtain ⟨-, -, hemails, -, hcreated, -⟩ := operations_keep_accounts_apart sampleOperations hids
  exact ⟨hids, hemails, hcreated⟩

end Accounts

end Gatehouse

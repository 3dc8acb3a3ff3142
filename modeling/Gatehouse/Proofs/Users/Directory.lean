import Gatehouse.Users.Account

/-!
# What the operations on accounts change

Accounts are added at the end and changed in place. A change concerns the first account with an id
(`Directory.exists_index_of_findById`) and leaves the others where they are, so each operation is known by
what it writes and at which index.
-/

namespace Gatehouse

/-- The role of the account at an index: the first one is an admin. -/
def roleAt (index : Nat) : String := if index = 0 then adminRole else userRole

theorem roleAt_eq_adminRole_iff {index : Nat} : roleAt index = adminRole ↔ index = 0 := by
  rw [roleAt]
  by_cases hindex : index = 0
  · rw [if_pos hindex]
    exact iff_of_true rfl hindex
  · rw [if_neg hindex]
    exact iff_of_false (by decide) hindex

namespace Directory

variable {d : Directory}

/-! ### Adding -/

/-- A new account: the first one is made an admin. -/
def account (d : Directory) (new : NewUser) (now : Instant) (id : String) : User :=
  ⟨id, new.username, new.name, new.email, if d.users.isEmpty then adminRole else userRole, now, now⟩

/-- The role of a new account is that of its place. -/
theorem role_account (d : Directory) (new : NewUser) (now : Instant) (id : String) :
    (d.account new now id).role = roleAt d.users.length := by
  rcases d with ⟨_ | ⟨first, rest⟩⟩
  · rfl
  · rfl

/-- The accounts with one more at the end. -/
def add (d : Directory) (u : StoredUser) : Directory := ⟨d.users ++ [u]⟩

/-- An account whose username and email are free is added at the end. -/
theorem create_of_free {new : NewUser} (h : d.taken new.username new.email = false) (now : Instant)
    (id : String) :
    d.create new now id =
      (some (d.account new now id), d.add ⟨d.account new now id, new.passwordHash⟩) := by
  rw [create, h]
  rfl

/-! ### Changing -/

/-- The index of the first account with an id. -/
def indexOf? (d : Directory) (id : String) : Option Nat := d.users.findIdx? fun u => u.user.id = id

/-- At the index of an id stands the account with the id, and a change of it is written there. -/
theorem of_indexOf?_eq_some {id : String} {i : Nat} (h : d.indexOf? id = some i) :
    ∃ u, d.users[i]? = some u ∧ d.findById id = some u ∧ ∀ f, modify f id d.users = d.users.set i (f u) := by
  obtain ⟨users⟩ := d
  rw [indexOf?] at h
  simp only [findById]
  induction users generalizing i with
  | nil => exact absurd h (by simp)
  | cons first rest ih =>
    rw [List.findIdx?_cons] at h
    split at h
    next hid =>
      obtain rfl := Option.some.inj h
      refine ⟨first, rfl, List.find?_cons_of_pos hid, fun f => ?_⟩
      rw [modify, if_pos (of_decide_eq_true hid), List.set_cons_zero]
    next hid =>
      obtain ⟨j, hj, rfl⟩ := Option.map_eq_some_iff.mp h
      obtain ⟨u, hu, hfound, hset⟩ := ih hj
      have hne : ¬ first.user.id = id := by simpa using hid
      refine ⟨u, hu, (List.find?_cons_of_neg (by simpa using hne)).trans hfound, fun f => ?_⟩
      rw [modify, if_neg hne, hset, List.set_cons_succ]

/-- An id that is found has an index. -/
theorem exists_indexOf?_of_findById {id : String} {u : StoredUser} (h : d.findById id = some u) :
    ∃ i, d.indexOf? id = some i := by
  have hid : u.user.id = id := by simpa using List.find?_some h
  rw [← Option.isSome_iff_exists, indexOf?, List.findIdx?_isSome, List.any_eq_true]
  exact ⟨u, List.mem_of_find?_eq_some h, decide_eq_true hid⟩

/-- The first account with an id has an index, and a change of it is written there. -/
theorem exists_index_of_findById {id : String} {u : StoredUser} (h : d.findById id = some u) :
    u.user.id = id ∧ ∃ i : Nat, d.users[i]? = some u ∧ ∀ f, modify f id d.users = d.users.set i (f u) := by
  obtain ⟨i, hi⟩ := exists_indexOf?_of_findById h
  obtain ⟨u', hu, hfound, hset⟩ := of_indexOf?_eq_some hi
  obtain rfl : u = u' := Option.some.inj (h.symm.trans hfound)
  exact ⟨by simpa using List.find?_some h, i, hu, hset⟩

/-- After a change that leaves its id alone, the account with an id is the changed one. -/
theorem find?_modify {id : String} {users : List StoredUser} {u : StoredUser} {f : StoredUser → StoredUser}
    (h : users.find? (fun u => u.user.id = id) = some u) (hid : (f u).user.id = id) :
    (modify f id users).find? (fun u => u.user.id = id) = some (f u) := by
  induction users with
  | nil => exact absurd h (by simp)
  | cons first rest ih =>
    rw [List.find?_cons] at h
    split at h
    next hfirst =>
      obtain rfl := Option.some.inj h
      rw [modify, if_pos (of_decide_eq_true hfirst)]
      exact List.find?_cons_of_pos (decide_eq_true hid)
    next hfirst =>
      have hne := of_decide_eq_false hfirst
      rw [modify, if_neg hne, List.find?_cons_of_neg (by simpa using hne), ih h]

/-- What a change where the account stands leaves alone of it, it leaves alone of all accounts. -/
theorem map_set_eq {α : Type} {f : StoredUser → α} {i : Nat} {row row' : StoredUser}
    (hrow : d.users[i]? = some row) (hsame : f row' = f row) :
    (d.users.set i row').map f = d.users.map f := by
  have hget : (d.users.map f)[i]? = some (f row') := by
    rw [List.getElem?_map, hrow, hsame]
    rfl
  obtain ⟨hi, hget⟩ := List.getElem?_eq_some_iff.mp hget
  rw [List.map_set, ← hget, List.set_getElem_self]

/-- A profile that was updated is the one of the account with the id; name, email and the time of the
change are all that is written. -/
theorem of_updateProfile_eq_updated {d' : Directory} {id : String} {update : ProfileUpdate} {now : Instant}
    {user : User} (h : d.updateProfile id update now = (.updated user, d')) :
    ∃ (i : Nat) (u : StoredUser), d.users[i]? = some u ∧ u.user.id = id ∧
      user = { u.user with name := update.name, email := update.email, updatedAt := now } ∧
      d' = ⟨d.users.set i { u with user }⟩ := by
  rw [updateProfile] at h
  split at h
  · exact absurd (Prod.mk.inj h).1 (by simp)
  split at h
  · exact absurd (Prod.mk.inj h).1 (by simp)
  next u hfound =>
    obtain ⟨hid, i, hi, hset⟩ := exists_index_of_findById hfound
    obtain ⟨huser, rfl⟩ := Prod.mk.inj h
    obtain rfl := ProfileOutcome.updated.inj huser
    exact ⟨i, u, hi, hid, rfl, by rw [hset]⟩

/-- A profile that was updated has no email of another account. -/
theorem emailTakenByOther_of_updateProfile_eq_updated {d' : Directory} {id : String} {update : ProfileUpdate}
    {now : Instant} {user : User} (h : d.updateProfile id update now = (.updated user, d')) :
    d.emailTakenByOther id update.email = false := by
  rw [updateProfile] at h
  split at h
  · exact absurd (Prod.mk.inj h).1 (by simp)
  next hfree => exact Bool.eq_false_iff.mpr hfree

/-- A profile is replaced at the index of its id, if the id has one and the email is not that of another. -/
theorem updateProfile_of_indexOf? {id : String} {update : ProfileUpdate} {i : Nat}
    (hindex : d.indexOf? id = some i) (hfree : d.emailTakenByOther id update.email = false) (now : Instant) :
    ∃ u, d.users[i]? = some u ∧ u.user.id = id ∧ d.updateProfile id update now =
      (.updated { u.user with name := update.name, email := update.email, updatedAt := now },
        ⟨d.users.set i { u with user :=
          { u.user with name := update.name, email := update.email, updatedAt := now } }⟩) := by
  obtain ⟨u, hu, hfound, hset⟩ := of_indexOf?_eq_some hindex
  refine ⟨u, hu, by simpa using List.find?_some hfound, ?_⟩
  rw [updateProfile, hfree, if_neg Bool.false_ne_true, hfound]
  dsimp only
  rw [hset]

/-- A profile that was updated is one whose id has an index. -/
theorem exists_indexOf?_of_updateProfile_eq_updated {d' : Directory} {id : String} {update : ProfileUpdate}
    {now : Instant} {user : User} (h : d.updateProfile id update now = (.updated user, d')) :
    ∃ i, d.indexOf? id = some i := by
  rw [updateProfile] at h
  split at h
  · exact absurd (Prod.mk.inj h).1 nofun
  split at h
  · exact absurd (Prod.mk.inj h).1 nofun
  next u hfound => exact exists_indexOf?_of_findById hfound

/-- A profile that was not updated leaves the accounts as they are. -/
theorem updateProfile_eq_self {d' : Directory} {id : String} {update : ProfileUpdate} {now : Instant}
    {outcome : ProfileOutcome} (h : d.updateProfile id update now = (outcome, d'))
    (hnot : ∀ user, outcome ≠ .updated user) : d' = d := by
  rw [updateProfile] at h
  split at h
  · exact (Prod.mk.inj h).2.symm
  split at h
  · exact (Prod.mk.inj h).2.symm
  · exact absurd (Prod.mk.inj h).1.symm (hnot _)

/-- The password hash of the account with an id is replaced, and the time of the change. -/
theorem setPasswordHash_of_findById {id : String} {u : StoredUser} (h : d.findById id = some u)
    (hash : String) (now : Instant) :
    ∃ i : Nat, d.users[i]? = some u ∧
      d.setPasswordHash id hash now = (true, ⟨d.users.set i ⟨{ u.user with updatedAt := now }, hash⟩⟩) ∧
      (d.setPasswordHash id hash now).2.findById id = some ⟨{ u.user with updatedAt := now }, hash⟩ := by
  obtain ⟨hid, i, hi, hset⟩ := exists_index_of_findById h
  have hwritten : d.setPasswordHash id hash now =
      (true, ⟨modify (fun u => ⟨{ u.user with updatedAt := now }, hash⟩) id d.users⟩) := by
    rw [setPasswordHash, h]
  refine ⟨i, hi, by rw [hwritten, hset], ?_⟩
  rw [hwritten]
  exact find?_modify h hid

end Directory

end Gatehouse

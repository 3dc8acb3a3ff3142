import Gatehouse.Proofs.Server.Outcome

/-!
# What a request can do to the accounts

Most of what a server does with a request (`Server.Outcome`) leaves the accounts alone. They are written by
registrations, whether or not tokens can be made for the new account, by changes of profile and by changes of
password. With where it is written and under which checks, these are four cases (`Server.AccountStep`). What
requests preserve of the accounts, their number, subjects, usernames, names or hashes, is a split on these four.
-/

namespace Gatehouse.Server

open Http (Request Response)

/-- **What a request does to the accounts**, with what it had to show for it. -/
inductive AccountStep (tokens : TokenConfig) (hashCost : Nat) (m : Moment) (r : Request) (d : Directory) :
    Directory → Prop where
  /-- Nothing. -/
  | kept : AccountStep tokens hashCost m r d d
  /-- It adds one, under a username and an email that were free. -/
  | made {wish order : Registration} {hash : String} (asks : r.Asks (.free .register))
      (payload : RequestReader.payload Registration.shape r = .ok wish) (tidy : wish.tidy = .ok order)
      (free : d.taken order.username order.email = false)
      (hashed : hashPassword hashCost m.salt order.password = .ok hash) :
      AccountStep tokens hashCost m r d (d.add ⟨d.account (order.newUser hash) m.now m.userId.render, hash⟩)
  /-- It replaces the profile of the caller's account, and wants no email of another. -/
  | replaced {caller : Claims} {wish : ProfileWish} {update : ProfileUpdate} {i : Nat} {row : StoredUser}
      (asks : r.Asks (.guarded .ownProfile)) (bears : Bears tokens m r caller)
      (payload : RequestReader.payload ProfileWish.shape r = .ok wish) (tidy : wish.tidy = .ok update)
      (free : d.emailTakenByOther caller.sub update.email = false) (own : d.indexOf? caller.sub = some i)
      (found : d.users[i]? = some row) (id : row.user.id = caller.sub) :
      AccountStep tokens hashCost m r d ⟨d.users.set i { row with user :=
        { row.user with name := update.name, email := update.email, updatedAt := m.now } }⟩
  /-- It replaces the hash of the caller's account, the password having been given. -/
  | rehashed {caller : Claims} {change : PasswordChange} {i : Nat} {row : StoredUser} {hash : String}
      (asks : r.Asks (.guarded .ownPassword)) (bears : Bears tokens m r caller)
      (payload : RequestReader.payload PasswordChange.shape r = .ok change)
      (found : d.users[i]? = some row) (id : row.user.id = caller.sub)
      (password : verifyPassword change.old row.passwordHash = .ok true)
      (hashed : hashPassword hashCost m.salt change.new = .ok hash) :
      AccountStep tokens hashCost m r d ⟨d.users.set i ⟨{ row.user with updatedAt := m.now }, hash⟩⟩

variable {tokens : TokenConfig} {hashCost : Nat} {m : Moment} {r : Request} {before after : Memory}
  {answer : Option Response}

/-- Whatever is done with a request, it is one of four things to the accounts. -/
theorem Outcome.accountStep (h : Outcome tokens hashCost m r before answer after) :
    AccountStep tokens hashCost m r before.users after.users := by
  cases h with
  | unchanged => exact .kept
  | registered asks payload tidy free hashed made issue =>
    obtain ⟨_, expiry, -, -, -, rfl⟩ := TokenConfig.of_issue_eq_ok issue
    exact made ▸ .made asks payload tidy free hashed
  | stranded asks payload tidy free hashed made => exact made ▸ .made asks payload tidy free hashed
  | loggedIn _ _ _ _ issue =>
    obtain ⟨_, expiry, -, -, -, rfl⟩ := TokenConfig.of_issue_eq_ok issue
    exact .kept
  | refreshed _ _ refresh =>
    obtain ⟨_, _, _, _, _, -, -, -, rfl⟩ := TokenConfig.of_refresh_eq_ok refresh
    exact .kept
  | loggedOut => exact .kept
  | revoked => exact .kept
  | profileChanged asks bears payload tidy updated =>
    have hfree := Directory.emailTakenByOther_of_updateProfile_eq_updated updated
    obtain ⟨i, hi⟩ := Directory.exists_indexOf?_of_updateProfile_eq_updated updated
    obtain ⟨row, hrow, hid, hreplaced⟩ := Directory.updateProfile_of_indexOf? hi hfree m.now
    obtain ⟨-, rfl⟩ := Prod.mk.inj (updated.symm.trans hreplaced)
    exact .replaced asks bears payload tidy hfree hi hrow hid
  | @passwordChanged _ _ _ hash asks bears payload found _ password hashed =>
    obtain ⟨hid, -⟩ := Directory.exists_index_of_findById found
    obtain ⟨i, hi, hset, -⟩ := Directory.setPasswordHash_of_findById found hash m.now
    dsimp only
    rw [hset]
    exact .rehashed asks bears payload hi hid password hashed

theorem accountStep_handle (tokens : TokenConfig) (scanLimit hashCost : Nat) (m : Moment) (r : Request)
    (before : Memory) :
    AccountStep tokens hashCost m r before.users
      ((inMemory tokens scanLimit hashCost).handle m r before).2.users :=
  (handle_outcome tokens scanLimit hashCost m r before).accountStep

end Gatehouse.Server

import Gatehouse.Proofs.Server.TokenSubjects
import Gatehouse.Proofs.Text.Blank

/-!
# The form of accounts

Usernames, names and emails are written by registrations and by changes of profile. Both drop the blanks around
them, so in every state that is reached from empty stores accounts are tidy (`User.Tidy`). That a name is not
blank is checked by a change of profile only: a registration with a blank name makes an account without one. It
stays without one until its profile is replaced (`Server.Unnamed`), and all other accounts are in normal form
(`Server.accounts_are_normal_iff`).

Every fact about one request here is a split on what it does to the accounts (`Server.AccountStep`).
-/

namespace Gatehouse

open Http (Headers Request)

/-! ### Tidy accounts -/

/-- No blanks stand around the texts of an account, and neither the username nor an email is empty. -/
structure User.Tidy (u : User) : Prop where
  username : u.username ≠ "" ∧ Text.Trimmed u.username
  name : Text.Trimmed u.name
  email : ∀ email ∈ u.email, email ≠ "" ∧ Text.Trimmed email

/-- An account is tidy, and has a name. -/
structure User.Normal (u : User) : Prop extends User.Tidy u where
  named : u.name ≠ ""

theorem of_mem_tidyEmail {email : Option String} {tidy : String} (h : tidy ∈ tidyEmail email) :
    tidy ≠ "" ∧ Text.Trimmed tidy := by
  obtain ⟨hmap, hne⟩ := Option.filter_eq_some_iff.mp h
  obtain ⟨given, -, rfl⟩ := Option.map_eq_some_iff.mp hmap
  exact ⟨of_decide_eq_true hne, Text.trimmed_trim given⟩

/-- A registration in order makes a tidy account. -/
theorem Registration.tidy_account {wish order : Registration} (h : wish.tidy = .ok order) (d : Directory)
    (hash : String) (now : Instant) (id : String) : (d.account (order.newUser hash) now id).Tidy := by
  obtain ⟨rfl, hne, -⟩ := Registration.of_tidy_eq_ok h
  exact ⟨⟨hne, Text.trimmed_trim _⟩, Text.trimmed_trim _, fun _ => of_mem_tidyEmail⟩

/-- A profile in order has a name. -/
theorem ProfileWish.of_tidy_eq_ok {wish : ProfileWish} {update : ProfileUpdate} (h : wish.tidy = .ok update) :
    update = ⟨Text.trim wish.name, tidyEmail wish.email⟩ ∧ Text.trim wish.name ≠ "" := by
  obtain ⟨hne, h⟩ := ite_error_eq_ok_iff.mp h
  exact ⟨(Except.ok.inj h).symm, hne⟩

namespace Server

variable {tokens : TokenConfig} {scanLimit hashCost : Nat} {m : Moment} {r : Request} {before : Memory}

/-! ### One request -/

/-- A request makes an account without a name, if it makes one: it is a registration whose name is blank. -/
inductive RegistersBlank (r : Request) : Prop where
  | intro {wish : Registration} (asks : r.Asks (.free .register))
      (payload : RequestReader.payload Registration.shape r = .ok wish) (blank : Text.trim wish.name = "")

/-- A request replaces the profile of the account at an index: it bears an access token of the account, has a
profile in order, and wants no email of another account. -/
inductive ReplacesProfile (tokens : TokenConfig) (m : Moment) (r : Request) (d : Directory) (i : Nat) : Prop where
  | intro {caller : Claims} {wish : ProfileWish} {update : ProfileUpdate} (asks : r.Asks (.guarded .ownProfile))
      (bears : Bears tokens m r caller) (payload : RequestReader.payload ProfileWish.shape r = .ok wish)
      (tidy : wish.tidy = .ok update) (free : d.emailTakenByOther caller.sub update.email = false)
      (own : d.indexOf? caller.sub = some i)

namespace AccountStep

variable {d d' : Directory}

/-- No account is lost. -/
theorem length_le (h : AccountStep tokens hashCost m r d d') : d.users.length ≤ d'.users.length := by
  cases h with
  | kept => exact Nat.le_refl _
  | made => simp [Directory.add]
  | replaced | rehashed => exact Nat.le_of_eq List.length_set.symm

/-- Accounts stay tidy. -/
theorem tidy (h : AccountStep tokens hashCost m r d d') (hd : ∀ row ∈ d.users, row.user.Tidy) :
    ∀ row ∈ d'.users, row.user.Tidy := by
  intro row hrow
  cases h with
  | kept => exact hd row hrow
  | made _ _ tidy =>
    obtain hrow | hrow := List.mem_append.mp hrow
    · exact hd row hrow
    · obtain rfl := List.mem_singleton.mp hrow
      exact Registration.tidy_account tidy d _ _ _
  | replaced _ _ _ tidy _ _ found =>
    obtain hrow | rfl := List.mem_or_eq_of_mem_set hrow
    · exact hd row hrow
    · obtain ⟨rfl, -⟩ := ProfileWish.of_tidy_eq_ok tidy
      exact ⟨(hd _ (List.mem_of_getElem? found)).username, Text.trimmed_trim _, fun _ => of_mem_tidyEmail⟩
  | rehashed _ _ _ found =>
    obtain hrow | rfl := List.mem_or_eq_of_mem_set hrow
    · exact hd row hrow
    · obtain ⟨husername, hname, hemail⟩ := hd _ (List.mem_of_getElem? found)
      exact ⟨husername, hname, hemail⟩

/-- An account keeps its name unless its profile is replaced, and a new one is without a name if it was
registered with a blank one. -/
theorem name (h : AccountStep tokens hashCost m r d d') {i : Nat} {row : StoredUser} (hrow : d'.users[i]? = some row)
    (hkept : ¬ ReplacesProfile tokens m r d i) :
    (∃ old, d.users[i]? = some old ∧ row.user.name = old.user.name) ∨
      i = d.users.length ∧ (row.user.name = "" ↔ RegistersBlank r) := by
  cases h with
  | kept => exact .inl ⟨row, hrow, rfl⟩
  | made asks payload tidy =>
    obtain hi | hi := Nat.lt_or_ge i d.users.length
    · rw [Directory.add, List.getElem?_append_left hi] at hrow
      exact .inl ⟨row, hrow, rfl⟩
    · rw [Directory.add, List.getElem?_append_right hi, List.getElem?_singleton] at hrow
      obtain ⟨hlast, hnew⟩ := Option.ite_none_right_eq_some.mp hrow
      obtain rfl := Option.some.inj hnew
      obtain ⟨rfl, -, -⟩ := Registration.of_tidy_eq_ok tidy
      refine .inr ⟨by omega, fun hname => .intro asks payload hname, ?_⟩
      rintro ⟨-, payload', blank⟩
      obtain rfl := Except.ok.inj (payload.symm.trans payload')
      exact blank
  | @replaced _ _ _ j _ asks bears payload tidy free own =>
    have hne : j ≠ i := by
      rintro rfl
      exact hkept ⟨asks, bears, payload, tidy, free, own⟩
    rw [List.getElem?_set_ne hne] at hrow
    exact .inl ⟨row, hrow, rfl⟩
  | @rehashed _ _ j old _ _ _ _ found =>
    by_cases hj : j = i
    · subst hj
      rw [List.getElem?_set_self (List.getElem?_eq_some_iff.mp found).1] at hrow
      obtain rfl := Option.some.inj hrow
      exact .inl ⟨old, found, rfl⟩
    · rw [List.getElem?_set_ne hj] at hrow
      exact .inl ⟨row, hrow, rfl⟩

end AccountStep

/-- An account whose profile is replaced has a name. -/
theorem ReplacesProfile.named {i : Nat} (h : ReplacesProfile tokens m r before.users i) {row : StoredUser}
    (hrow : ((inMemory tokens scanLimit hashCost).handle m r before).2.users.users[i]? = some row) :
    row.user.name ≠ "" := by
  obtain ⟨asks, bears, payload, tidy, free, own⟩ := h
  obtain ⟨old, hold, -, hreplaced⟩ := Directory.updateProfile_of_indexOf? own free m.now
  obtain ⟨rfl, hne⟩ := ProfileWish.of_tidy_eq_ok tidy
  rw [handle_guarded (s := inMemory tokens scanLimit hashCost) asks bears, answerGuarded, Handler.need_bind_apply,
    payload] at hrow
  dsimp only at hrow
  rw [Handler.answer_apply, updateProfile_eq, tidy] at hrow
  dsimp only at hrow
  rw [hreplaced] at hrow
  dsimp only at hrow
  rw [List.getElem?_set_self (List.getElem?_eq_some_iff.mp hold).1] at hrow
  obtain rfl := Option.some.inj hrow
  exact hne

/-! ### One request after the other -/

/-- The account at an index was registered with a blank name, and its profile has not been replaced since. -/
inductive Unnamed (server : Server Memory) (i : Nat) : List (Moment × Request) → Prop where
  /-- It has just been made. -/
  | made {earlier : List (Moment × Request)} {q : Moment × Request} (blank : RegistersBlank q.2)
      (new : (server.run {} earlier).users.users.length = i)
      (added : i < (server.run {} (earlier ++ [q])).users.users.length) : Unnamed server i (earlier ++ [q])
  /-- It was made before. -/
  | kept {earlier : List (Moment × Request)} {q : Moment × Request} (unnamed : Unnamed server i earlier)
      (kept : ¬ ReplacesProfile server.tokens q.1 q.2 (server.run {} earlier).users i) :
      Unnamed server i (earlier ++ [q])

theorem unnamed_concat_iff {server : Server Memory} {i : Nat} {earlier : List (Moment × Request)}
    {q : Moment × Request} :
    Unnamed server i (earlier ++ [q]) ↔
      (RegistersBlank q.2 ∧ (server.run {} earlier).users.users.length = i ∧
        i < (server.run {} (earlier ++ [q])).users.users.length) ∨
      Unnamed server i earlier ∧ ¬ ReplacesProfile server.tokens q.1 q.2 (server.run {} earlier).users i := by
  constructor
  · intro h
    generalize hrequests : earlier ++ [q] = requests at h
    cases h with
    | made blank new added =>
      obtain ⟨rfl, hq⟩ := List.append_inj' hrequests rfl
      obtain rfl := List.singleton_inj.mp hq
      exact .inl ⟨blank, new, added⟩
    | kept unnamed kept =>
      obtain ⟨rfl, hq⟩ := List.append_inj' hrequests rfl
      obtain rfl := List.singleton_inj.mp hq
      exact .inr ⟨unnamed, kept⟩
  · rintro (⟨blank, new, added⟩ | ⟨unnamed, kept⟩)
    · exact .made blank new added
    · exact .kept unnamed kept

variable (tokens scanLimit hashCost)

/-- An account without a name is there. -/
theorem Unnamed.lt_length {i : Nat} {requests : List (Moment × Request)}
    (h : Unnamed (inMemory tokens scanLimit hashCost) i requests) :
    i < ((inMemory tokens scanLimit hashCost).run {} requests).users.users.length := by
  induction h with
  | made _ _ added => exact added
  | @kept earlier q _ _ ih =>
    rw [run_concat]
    exact Nat.lt_of_lt_of_le ih (accountStep_handle tokens scanLimit hashCost q.1 q.2 _).length_le

/-- Whatever is asked, tidy accounts stay tidy. -/
theorem tidy_run {start : Memory} (h : ∀ row ∈ start.users.users, row.user.Tidy)
    (requests : List (Moment × Request)) :
    ∀ row ∈ ((inMemory tokens scanLimit hashCost).run start requests).users.users, row.user.Tidy :=
  run_invariant (P := fun state : Memory => ∀ row ∈ state.users.users, row.user.Tidy)
    (fun m r before => (accountStep_handle tokens scanLimit hashCost m r before).tidy) h requests

/-- An account is without a name exactly if it was registered so and its profile has not been replaced since. -/
theorem name_eq_empty_iff (requests : List (Moment × Request)) {i : Nat} {row : StoredUser}
    (hrow : ((inMemory tokens scanLimit hashCost).run {} requests).users.users[i]? = some row) :
    row.user.name = "" ↔ Unnamed (inMemory tokens scanLimit hashCost) i requests := by
  induction requests using List.reverseRecOn generalizing row with
  | nil => exact absurd hrow nofun
  | append_singleton earlier q ih =>
    have hlength {row : StoredUser} {requests : List (Moment × Request)}
        (h : ((inMemory tokens scanLimit hashCost).run {} requests).users.users[i]? = some row) :
        i < ((inMemory tokens scanLimit hashCost).run {} requests).users.users.length :=
      (List.getElem?_eq_some_iff.mp h).1
    have hadded := hlength hrow
    rw [unnamed_concat_iff]
    rw [run_concat] at hrow
    by_cases hreplaces : ReplacesProfile tokens q.1 q.2 ((inMemory tokens scanLimit hashCost).run {} earlier).users i
    · refine iff_of_false (hreplaces.named hrow) ?_
      rintro (⟨-, hnew, -⟩ | ⟨-, hkept⟩)
      · obtain ⟨_, _, _, _, _, own⟩ := hreplaces
        obtain ⟨old, hold, -⟩ := Directory.of_indexOf?_eq_some own
        have := hlength hold
        omega
      · exact hkept hreplaces
    · obtain ⟨old, hold, hname⟩ | ⟨hnew, hname⟩ :=
        (accountStep_handle tokens scanLimit hashCost q.1 q.2 _).name hrow hreplaces
      · have hlt := hlength hold
        rw [hname, ih hold]
        constructor
        · exact fun hunnamed => .inr ⟨hunnamed, hreplaces⟩
        · rintro (⟨-, hnew, -⟩ | ⟨hunnamed, -⟩)
          · omega
          · exact hunnamed
      · rw [hname]
        constructor
        · exact fun hblank => .inl ⟨hblank, hnew.symm, hadded⟩
        · rintro (⟨hblank, -⟩ | ⟨hunnamed, -⟩)
          · exact hblank
          · have := hunnamed.lt_length
            omega

/-- **Accounts are in normal form unless they were registered without a name.** Whatever was asked of a server over
stores that were empty at first, no blanks stand around the texts of an account, and neither its username nor its
email is empty; and it has a name unless it was registered with a blank one and its profile has not been replaced
since. -/
theorem accounts_are_normal_iff (tokens : TokenConfig) (scanLimit hashCost : Nat)
    (requests : List (Moment × Request)) {i : Nat} {row : StoredUser}
    (hrow : ((inMemory tokens scanLimit hashCost).run {} requests).users.users[i]? = some row) :
    row.user.Tidy ∧ (row.user.Normal ↔ ¬ Unnamed (inMemory tokens scanLimit hashCost) i requests) := by
  have htidy : row.user.Tidy :=
    tidy_run tokens scanLimit hashCost (fun _ h => absurd h List.not_mem_nil) requests row (List.mem_of_getElem? hrow)
  refine ⟨htidy, ?_⟩
  rw [← name_eq_empty_iff tokens scanLimit hashCost requests hrow]
  exact ⟨fun h => h.named, fun h => ⟨htidy, h⟩⟩

/-! ### Samples -/

/-- The account of the sample registration is in normal form. -/
theorem sample_account_is_normal :
    ∃ row, ((inMemory sampleConfig 10 4).run {} [(sampleMoment, sampleRegistration)]).users.users[0]? = some row ∧
      row.user.Normal ∧ ¬ Unnamed (inMemory sampleConfig 10 4) 0 [(sampleMoment, sampleRegistration)] := by
  obtain ⟨issued, hash, after, hissue, hanswer⟩ := sample_registration
  obtain ⟨_, _, -, -, -, rfl⟩ := TokenConfig.of_issue_eq_ok hissue
  have hrow : ((inMemory sampleConfig 10 4).run {} [(sampleMoment, sampleRegistration)]).users.users[0]? =
      some ⟨sampleUser, hash⟩ := by
    rw [show (inMemory sampleConfig 10 4).run {} [(sampleMoment, sampleRegistration)] = _ from
      congrArg Prod.snd hanswer]
    rfl
  obtain ⟨htidy, hnormal⟩ := accounts_are_normal_iff sampleConfig 10 4 _ hrow
  have hnamed : sampleUser.name ≠ "" := by decide
  exact ⟨_, hrow, ⟨htidy, hnamed⟩, hnormal.mp ⟨htidy, hnamed⟩⟩

/-- A sample registration with a blank name. -/
def sampleNameless : Request :=
  { sampleRegistration with
    body := Utf8.encode "\x7b\"username\":\"bob\",\"password\":\"correct-horse\",\"name\":\"  \"\x7d" }

theorem payload_sampleNameless :
    RequestReader.payload Registration.shape sampleNameless = .ok ⟨"bob", "correct-horse", "  ", none⟩ :=
  RequestReader.payload_of_first? (Headers.first?_cons_self ..) (by decide) rfl

/-- It is answered by status 200, and makes an account without a name. -/
theorem nameless_account_is_made :
    ∃ response row, ((inMemory sampleConfig 10 4).handle sampleMoment sampleNameless {}).1 = some response ∧
      response.status = 200 ∧
      ((inMemory sampleConfig 10 4).run {} [(sampleMoment, sampleNameless)]).users.users[0]? = some row ∧
      row.user.name = "" ∧ ¬ row.user.Normal := by
  obtain ⟨hash, hhash⟩ : ∃ hash, hashPassword 4 sampleMoment.salt "correct-horse" = .ok hash := ⟨_, rfl⟩
  have htidy : Registration.tidy ⟨"bob", "correct-horse", "  ", none⟩ = .ok ⟨"bob", "correct-horse", "", none⟩ := rfl
  obtain ⟨user, issued, after, huser, hissue, hanswer⟩ := handle_registration {} ⟨rfl, rfl⟩ payload_sampleNameless
    htidy rfl hhash (sample_expiries 0 (by decide)) 10
  have hname : user.name = "" := congrArg User.name huser
  obtain ⟨_, _, -, -, -, rfl⟩ := TokenConfig.of_issue_eq_ok hissue
  have hrow : ((inMemory sampleConfig 10 4).run {} [(sampleMoment, sampleNameless)]).users.users[0]? =
      some ⟨user, hash⟩ := by
    rw [show (inMemory sampleConfig 10 4).run {} [(sampleMoment, sampleNameless)] = _ from
      congrArg Prod.snd hanswer]
    rfl
  exact ⟨_, _, congrArg Prod.fst hanswer, rfl, hrow, hname, fun hnormal => hnormal.named hname⟩

end Server

end Gatehouse

import Mathlib.Data.List.Pairwise
import Gatehouse.Proofs.Users.Runs

/-!
# Changes of profile as in a table

In a table of accounts in which no two rows share an id or an email, a profile is changed by writing it to the rows with
the id. If two rows came to have one email, nothing would be written (`Directory.updateTable`). So there is no row to
write, or another row has the email, or the one row with the id is replaced (`Directory.TableUpdate`,
`Directory.tableUpdate_iff`). Accounts in memory are changed in this way as well, but the email is looked at first: for
an id that no account has, an email that is taken is a collision there (`Memory.changes_profile_as_table_iff`).
-/

namespace Gatehouse

/-- An account with another profile. -/
def User.withProfile (u : User) (update : ProfileUpdate) (now : Instant) : User :=
  { u with name := update.name, email := update.email, updatedAt := now }

namespace Directory

/-! ### The table -/

/-- A row after the profile of an id was written. -/
def writeProfile (id : String) (update : ProfileUpdate) (now : Instant) (row : StoredUser) : StoredUser :=
  if row.user.id = id then { row with user := row.user.withProfile update now } else row

/-- No two rows have one email. -/
def EmailsUnique (rows : List StoredUser) : Prop := (rows.filterMap (·.user.email)).Nodup

instance (rows : List StoredUser) : Decidable (EmailsUnique rows) := inferInstanceAs (Decidable (List.Nodup _))

/-- Write a profile to the rows with an id, and answer with the row that was written, if there is one. Emails stay
unique: a profile that breaks this is not written. -/
def updateTable (rows : List StoredUser) (id : String) (update : ProfileUpdate) (now : Instant) :
    Except UserError (Option User) × List StoredUser :=
  let written := rows.map (writeProfile id update now)
  if EmailsUnique written then (.ok ((written.find? fun row => row.user.id = id).map (·.user)), written)
  else (.error .alreadyExists, rows)

/-- What a change of profile comes to: the answer, and the rows after it. -/
inductive TableUpdate (rows : List StoredUser) (id : String) (update : ProfileUpdate) (now : Instant) :
    Except UserError (Option User) → List StoredUser → Prop where
  /-- No row has the id. -/
  | missing (habsent : ∀ row ∈ rows, row.user.id ≠ id) : TableUpdate rows id update now (.ok none) rows
  /-- A row has the id, and another row the email. -/
  | taken {row other : StoredUser} {email : String} (hrow : row ∈ rows) (hid : row.user.id = id)
      (hother : other ∈ rows) (hne : other.user.id ≠ id) (hwanted : update.email = some email)
      (hheld : other.user.email = some email) : TableUpdate rows id update now (.error .alreadyExists) rows
  /-- The row with the id is replaced. -/
  | written {i : Nat} {row : StoredUser} (hrow : rows[i]? = some row) (hid : row.user.id = id)
      (hfree : ∀ other ∈ rows, other.user.id ≠ id → ∀ email ∈ update.email, other.user.email ≠ some email) :
      TableUpdate rows id update now (.ok (some (row.user.withProfile update now)))
        (rows.set i { row with user := row.user.withProfile update now })

variable {rows : List StoredUser} {id : String} {update : ProfileUpdate} {now : Instant}

theorem id_writeProfile (row : StoredUser) : (writeProfile id update now row).user.id = row.user.id := by
  rw [writeProfile]
  split <;> rfl

theorem writeProfile_of_eq {row : StoredUser} (h : row.user.id = id) :
    writeProfile id update now row = { row with user := row.user.withProfile update now } := if_pos h

theorem writeProfile_of_ne {row : StoredUser} (h : row.user.id ≠ id) : writeProfile id update now row = row := if_neg h

/-- Two rows have no email in common. -/
def EmailsApart (a b : StoredUser) : Prop := ∀ email ∈ a.user.email, email ∉ b.user.email

instance : Std.Symm EmailsApart := ⟨fun _ _ h email hb ha => h email ha hb⟩

instance : Std.Symm StoredUser.Apart := ⟨fun _ _ => StoredUser.Apart.symm⟩

/-- Emails are unique exactly if no two rows have one in common. -/
theorem emailsUnique_iff : EmailsUnique rows ↔ rows.Pairwise EmailsApart := by
  rw [EmailsUnique, List.Nodup, List.pairwise_filterMap]
  refine List.Pairwise.iff fun a b => ?_
  constructor
  · intro h email ha hb
    exact h email ha email hb rfl
  · rintro h email ha _ hb rfl
    exact h email ha hb

/-- Among rows that are apart each is the only one with its id. -/
theorem eq_of_id_eq (h : rows.Pairwise StoredUser.Apart) {a b : StoredUser} (ha : a ∈ rows) (hb : b ∈ rows)
    (hid : a.user.id = b.user.id) : a = b := by
  by_contra hne
  exact (h.forall ha hb hne).id hid

/-- Written to the rows with an id is written to the row with the id. -/
theorem map_writeProfile (h : rows.Pairwise StoredUser.Apart) {i : Nat} {row : StoredUser} (hrow : rows[i]? = some row)
    (hid : row.user.id = id) : rows.map (writeProfile id update now) =
      rows.set i { row with user := row.user.withProfile update now } := by
  obtain ⟨hi, -⟩ := List.getElem?_eq_some_iff.mp hrow
  refine List.ext_getElem? fun j => ?_
  rw [List.getElem?_map]
  rcases eq_or_ne i j with rfl | hne
  · rw [hrow, List.getElem?_set_self hi, Option.map_some, writeProfile_of_eq hid]
  · rw [List.getElem?_set_ne hne]
    cases hother : rows[j]? with
    | none => rfl
    | some other =>
      have hapart := StoredUser.Apart.of_pairwise h hrow hother hne
      rw [Option.map_some, writeProfile_of_ne fun hsame => hapart.id (hid.trans hsame.symm)]

/-- Where no row has an id nothing is written. -/
theorem map_writeProfile_of_absent (h : ∀ row ∈ rows, row.user.id ≠ id) :
    rows.map (writeProfile id update now) = rows :=
  (List.map_congr_left fun row hrow => writeProfile_of_ne (h row hrow)).trans (List.map_id rows)

/-- The row that is found by an id is the written one. -/
theorem find?_map_writeProfile (h : rows.Pairwise StoredUser.Apart) {row : StoredUser} (hrow : row ∈ rows)
    (hid : row.user.id = id) : (rows.map (writeProfile id update now)).find? (fun row => row.user.id = id) =
      some { row with user := row.user.withProfile update now } := by
  have hpred : (fun row => decide (row.user.id = id)) ∘ writeProfile id update now =
      fun row => decide (row.user.id = id) := by
    funext other
    rw [Function.comp_apply, id_writeProfile]
  have hfound : rows.find? (fun row => row.user.id = id) = some row := by
    cases hfind : rows.find? fun row => row.user.id = id with
    | none => exact absurd (decide_eq_true hid) (List.find?_eq_none.mp hfind row hrow)
    | some other =>
      have hother : other.user.id = id := by simpa using List.find?_some hfind
      rw [eq_of_id_eq h (List.mem_of_find?_eq_some hfind) hrow (hother.trans hid.symm)]
  rw [List.find?_map, hpred, hfound, Option.map_some, writeProfile_of_eq hid]

/-- An email that another row has is not unique when it is written. -/
theorem not_emailsUnique_map_writeProfile {row other : StoredUser} {email : String} (hrow : row ∈ rows)
    (hid : row.user.id = id) (hother : other ∈ rows) (hne : other.user.id ≠ id) (hwanted : update.email = some email)
    (hheld : other.user.email = some email) : ¬ EmailsUnique (rows.map (writeProfile id update now)) := by
  intro hunique
  have hwritten := List.mem_map_of_mem (f := writeProfile id update now) hrow
  have hkept := List.mem_map_of_mem (f := writeProfile id update now) hother
  rw [writeProfile_of_eq hid] at hwritten
  rw [writeProfile_of_ne hne] at hkept
  have hrows : other ≠ { row with user := row.user.withProfile update now } := by
    rintro rfl
    exact hne hid
  exact (emailsUnique_iff.mp hunique).forall hkept hwritten hrows email hheld hwanted

/-- An email that no other row has stays unique when it is written. -/
theorem emailsUnique_map_writeProfile (h : rows.Pairwise StoredUser.Apart) {i : Nat} {row : StoredUser}
    (hrow : rows[i]? = some row) (hid : row.user.id = id)
    (hfree : ∀ other ∈ rows, other.user.id ≠ id → ∀ email ∈ update.email, other.user.email ≠ some email) :
    EmailsUnique (rows.map (writeProfile id update now)) := by
  rw [map_writeProfile h hrow hid, emailsUnique_iff]
  refine pairwise_set (fun _ _ => Std.Symm.symm _ _) (h.imp StoredUser.Apart.email) ?_
  intro j other hother hne email hheld hwanted
  have hapart := StoredUser.Apart.of_pairwise h hother hrow hne
  exact hfree other (List.mem_of_getElem? hother) (hid ▸ hapart.id) email hwanted hheld

/-- What a change of profile comes to is what the table does. -/
theorem TableUpdate.updateTable_eq (h : rows.Pairwise StoredUser.Apart) {answer : Except UserError (Option User)}
    {after : List StoredUser} (hupdate : TableUpdate rows id update now answer after) :
    updateTable rows id update now = (answer, after) := by
  unfold updateTable
  dsimp only
  cases hupdate with
  | missing habsent =>
    have hnone : rows.find? (fun row => row.user.id = id) = none :=
      List.find?_eq_none.mpr fun row hrow => by simpa using habsent row hrow
    rw [map_writeProfile_of_absent habsent, if_pos (emailsUnique_iff.mpr (h.imp StoredUser.Apart.email)), hnone]
    rfl
  | taken hrow hid hother hne hwanted hheld =>
    rw [if_neg (not_emailsUnique_map_writeProfile hrow hid hother hne hwanted hheld)]
  | written hrow hid hfree =>
    rw [if_pos (emailsUnique_map_writeProfile h hrow hid hfree),
      find?_map_writeProfile h (List.mem_of_getElem? hrow) hid, map_writeProfile h hrow hid]
    rfl

/-- A change of profile comes to something. -/
theorem exists_tableUpdate (rows : List StoredUser) (id : String) (update : ProfileUpdate) (now : Instant) :
    ∃ answer after, TableUpdate rows id update now answer after := by
  by_cases habsent : ∀ row ∈ rows, row.user.id ≠ id
  · exact ⟨_, _, .missing habsent⟩
  push Not at habsent
  obtain ⟨row, hrow, hid⟩ := habsent
  by_cases hfree : ∀ other ∈ rows, other.user.id ≠ id → ∀ email ∈ update.email, other.user.email ≠ some email
  · obtain ⟨i, hi⟩ := List.getElem?_of_mem hrow
    exact ⟨_, _, .written hi hid hfree⟩
  · push Not at hfree
    obtain ⟨other, hother, hne, email, hwanted, hheld⟩ := hfree
    exact ⟨_, _, .taken hrow hid hother hne hwanted hheld⟩

/-- **The table does what a change of profile comes to**, and nothing else. -/
theorem tableUpdate_iff (h : rows.Pairwise StoredUser.Apart) {answer : Except UserError (Option User)}
    {after : List StoredUser} :
    TableUpdate rows id update now answer after ↔ updateTable rows id update now = (answer, after) := by
  refine ⟨TableUpdate.updateTable_eq h, fun htable => ?_⟩
  obtain ⟨answer', after', hupdate⟩ := exists_tableUpdate rows id update now
  obtain ⟨rfl, rfl⟩ := Prod.mk.inj ((hupdate.updateTable_eq h).symm.trans htable)
  exact hupdate

/-! ### Accounts in memory -/

theorem emailTakenByOther_iff {d : Directory} {email : Option String} : d.emailTakenByOther id email = true ↔
    ∃ other ∈ d.users, other.user.id ≠ id ∧ ∃ e ∈ email, other.user.email = some e := by
  cases email with
  | none => simp [emailTakenByOther]
  | some e => simp [emailTakenByOther, List.any_eq_true]

end Directory

namespace Memory

open Directory (TableUpdate updateTable emailTakenByOther_iff)

variable {mem : Memory} {id : String} {update : ProfileUpdate}

theorem updateProfile_of_emailTaken (h : mem.users.emailTakenByOther id update.email = true) (now : Instant) :
    access.users.updateProfile id update now mem = (.error .alreadyExists, mem) := by
  rw [updateProfile_apply, Directory.updateProfile, if_pos h]

theorem updateProfile_of_absent (hfree : mem.users.emailTakenByOther id update.email = false)
    (habsent : ∀ row ∈ mem.users.users, row.user.id ≠ id) (now : Instant) :
    access.users.updateProfile id update now mem = (.ok none, mem) := by
  have hnone : mem.users.findById id = none :=
    List.find?_eq_none.mpr fun row hrow => by simpa using habsent row hrow
  rw [updateProfile_apply, Directory.updateProfile, hfree, if_neg Bool.false_ne_true, hnone]

theorem exists_updateProfile_eq_ok (hfree : mem.users.emailTakenByOther id update.email = false) {row : StoredUser}
    (hrow : row ∈ mem.users.users) (hid : row.user.id = id) (now : Instant) :
    ∃ (i : Nat) (u : StoredUser), mem.users.users[i]? = some u ∧ u.user.id = id ∧
      access.users.updateProfile id update now mem = (.ok (some (u.user.withProfile update now)),
        { mem with users := ⟨mem.users.users.set i { u with user := u.user.withProfile update now }⟩ }) := by
  obtain ⟨u, hu⟩ : ∃ u, mem.users.findById id = some u := by
    rw [← Option.isSome_iff_exists, Directory.findById, List.find?_isSome]
    exact ⟨row, hrow, decide_eq_true hid⟩
  obtain ⟨i, hi⟩ := Directory.exists_indexOf?_of_findById hu
  obtain ⟨u, hu, hid, hupdate⟩ := Directory.updateProfile_of_indexOf? hi hfree now
  refine ⟨i, u, hu, hid, ?_⟩
  rw [updateProfile_apply, hupdate]
  rfl

/-- The email is looked at before the account is. -/
theorem updateProfile_of_missing_of_held (habsent : ∀ row ∈ mem.users.users, row.user.id ≠ id)
    (hheld : ∃ row ∈ mem.users.users, ∃ email ∈ update.email, row.user.email = some email) (now : Instant) :
    access.users.updateProfile id update now mem = (.error .alreadyExists, mem) := by
  obtain ⟨row, hrow, hemail⟩ := hheld
  exact updateProfile_of_emailTaken (emailTakenByOther_iff.mpr ⟨row, hrow, habsent row hrow, hemail⟩) now

/-- In every other case the change is that of a table. -/
theorem exists_tableUpdate_updateProfile (h : (∃ row ∈ mem.users.users, row.user.id = id) ∨
      ∀ row ∈ mem.users.users, ∀ email ∈ update.email, row.user.email ≠ some email) (now : Instant) :
    ∃ answer rows, access.users.updateProfile id update now mem = (answer, { mem with users := ⟨rows⟩ }) ∧
      TableUpdate mem.users.users id update now answer rows := by
  cases htaken : mem.users.emailTakenByOther id update.email with
  | true =>
    obtain ⟨other, hother, hne, email, hwanted, hheld⟩ := emailTakenByOther_iff.mp htaken
    obtain ⟨row, hrow, hid⟩ | hfree := h
    · exact ⟨_, _, updateProfile_of_emailTaken htaken now, .taken hrow hid hother hne hwanted hheld⟩
    · exact absurd hheld (hfree other hother email hwanted)
  | false =>
    have hfree : ∀ other ∈ mem.users.users, other.user.id ≠ id → ∀ email ∈ update.email,
        other.user.email ≠ some email := by
      intro other hother hne email hwanted hheld
      exact absurd (emailTakenByOther_iff.mpr ⟨other, hother, hne, email, hwanted, hheld⟩) (by simp [htaken])
    by_cases habsent : ∀ row ∈ mem.users.users, row.user.id ≠ id
    · exact ⟨_, _, updateProfile_of_absent htaken habsent now, .missing habsent⟩
    · push Not at habsent
      obtain ⟨row, hrow, hid⟩ := habsent
      obtain ⟨i, u, hu, hid, hupdate⟩ := exists_updateProfile_eq_ok htaken hrow hid now
      exact ⟨_, _, hupdate, .written hu hid hfree⟩

/-- **Profiles are changed as in a table, unless the account is missing and the email is not.** For any accounts in
memory, a change of profile answers nothing if no account has the id; fails, and writes nothing, exactly if an account
has it and another one has the email; and otherwise replaces the profile of that account alone and answers with it: in
each case but the one in which no account has the id and one has the email. There the change fails and writes nothing.
That is what a table does in which ids and emails are unique, where the profile is written to the rows with the id. -/
theorem changes_profile_as_table_iff (mem : Memory) (id : String) (update : ProfileUpdate) (now : Instant) :
    ((∃ answer rows, access.users.updateProfile id update now mem = (answer, { mem with users := ⟨rows⟩ }) ∧
        TableUpdate mem.users.users id update now answer rows) ↔
      (∃ row ∈ mem.users.users, row.user.id = id) ∨
        ∀ row ∈ mem.users.users, ∀ email ∈ update.email, row.user.email ≠ some email) ∧
    ((∀ row ∈ mem.users.users, row.user.id ≠ id) →
      (∃ row ∈ mem.users.users, ∃ email ∈ update.email, row.user.email = some email) →
      access.users.updateProfile id update now mem = (.error .alreadyExists, mem)) ∧
    (mem.users.users.Pairwise StoredUser.Apart → ∀ answer rows,
      TableUpdate mem.users.users id update now answer rows ↔
        updateTable mem.users.users id update now = (answer, rows)) := by
  refine ⟨⟨?_, fun h => exists_tableUpdate_updateProfile h now⟩,
    fun habsent hheld => updateProfile_of_missing_of_held habsent hheld now, fun h _ _ => Directory.tableUpdate_iff h⟩
  rintro ⟨answer, rows, hupdate, htable⟩
  by_contra hneither
  push Not at hneither
  obtain ⟨habsent, hheld⟩ := hneither
  rw [updateProfile_of_missing_of_held habsent hheld] at hupdate
  obtain ⟨rfl, -⟩ := Prod.mk.inj hupdate
  cases htable with
  | taken hrow hid => exact habsent _ hrow hid

/-- Two accounts, of which the first has an email. -/
def sampleAccounts : Memory :=
  Accounts.run {} [.create ⟨"ada", "Ada", some "ada@x", "h"⟩ ⟨0, 0⟩ "u1", .create ⟨"bob", "Bob", none, "h"⟩ ⟨1, 0⟩ "u2"]

/-- An account may not take the email of another, in memory and in the table alike. -/
theorem sample_changes_profile_as_table :
    sampleAccounts.users.users.Pairwise StoredUser.Apart ∧
    access.users.updateProfile "u2" ⟨"Bob", some "ada@x"⟩ ⟨2, 0⟩ sampleAccounts =
      (.error .alreadyExists, sampleAccounts) ∧
    updateTable sampleAccounts.users.users "u2" ⟨"Bob", some "ada@x"⟩ ⟨2, 0⟩ =
      (.error .alreadyExists, sampleAccounts.users.users) := by
  have hapart : sampleAccounts.users.users.Pairwise StoredUser.Apart :=
    List.pairwise_pair.mpr ⟨by decide, by decide, by decide⟩
  obtain ⟨hiff, -, htable⟩ := changes_profile_as_table_iff sampleAccounts "u2" ⟨"Bob", some "ada@x"⟩ ⟨2, 0⟩
  obtain ⟨answer, rows, hupdate, hrows⟩ := hiff.mpr (.inl (by decide))
  have hfails : access.users.updateProfile "u2" ⟨"Bob", some "ada@x"⟩ ⟨2, 0⟩ sampleAccounts =
      (.error .alreadyExists, sampleAccounts) := rfl
  obtain ⟨rfl, hafter⟩ := Prod.mk.inj (hupdate.symm.trans hfails)
  obtain rfl : rows = sampleAccounts.users.users := congrArg (·.users.users) hafter
  exact ⟨hapart, hfails, (htable hapart _ _).mp hrows⟩

/-- For an id that no account has, an email that is taken is a collision in memory and nothing in the table. -/
theorem missing_account_collides :
    (∀ row ∈ sampleAccounts.users.users, row.user.id ≠ "u3") ∧
    updateTable sampleAccounts.users.users "u3" ⟨"Cid", some "ada@x"⟩ ⟨2, 0⟩ =
      (.ok none, sampleAccounts.users.users) ∧
    access.users.updateProfile "u3" ⟨"Cid", some "ada@x"⟩ ⟨2, 0⟩ sampleAccounts =
      (.error .alreadyExists, sampleAccounts) :=
  ⟨by decide, rfl, rfl⟩

end Memory

end Gatehouse

import Mathlib.Data.List.Pairwise
import Gatehouse.Proofs.Instant.TextOrder
import Gatehouse.Proofs.Query.Selection
import Gatehouse.Proofs.Server.Listing

/-!
# Listings in the order of creation

A listing sorts the accounts by the texts of the times that they were created at, and texts are not always in
the order of time. The listing is chronological exactly if no account was created within the last digit that the
time of an earlier one is written with (`Server.listUsers_chronological_iff`): an account that was created on
the full second is listed as if it came after all others of that second.
-/

namespace Gatehouse

/-! ### Sorted documents -/

/-- A query that only sorts. -/
theorem Query.apply_sort (keys : SortOrder) (docs : List Json) :
    apply { sort := some keys } docs = keys.sort docs :=
  congrArg keys.sort (List.filter_eq_self.mpr fun d _ => Predicate.holds_all d)

/-- A listing of all accounts by the time of their creation. -/
def QueryText.byCreation (direction : Direction) : QueryText where
  sort := match direction with
    | .ascending => some "\x7b\"createdAt\":\"asc\"\x7d"
    | .descending => some "\x7b\"createdAt\":\"desc\"\x7d"

theorem QueryText.read_byCreation (direction : Direction) :
    (byCreation direction).read = .ok { sort := some [⟨"createdAt", direction⟩] } := by
  cases direction <;> decide +kernel

theorem User.lookup_createdAt (u : User) : u.toJson.lookup "createdAt" = some (.string u.createdAt.render) := by
  have hsegments : Json.segments "createdAt" = ["createdAt"] := by decide
  rw [Json.lookup, hsegments]
  rfl

theorem User.compareDocs_createdAt (direction : Direction) (a b : User) :
    SortOrder.compareDocs [⟨"createdAt", direction⟩] a.toJson b.toJson =
      direction.apply (compare a.createdAt.render b.createdAt.render) := by
  rw [SortOrder.compareDocs, SortOrder.compareDocs, Ordering.then_eq, SortKey.compareDocs, lookup_createdAt,
    lookup_createdAt]
  rfl

/-! ### Accounts in the order of creation -/

namespace Direction

/-- What is at most level in a direction, and also in exchanged places, is level. -/
theorem eq_of_apply_swap {direction : Direction} {o : Ordering} (h : direction.apply o ≠ .gt)
    (hswap : direction.apply o.swap ≠ .gt) : o = .eq := by
  cases o with
  | eq => rfl
  | lt => cases direction with
    | ascending => exact absurd rfl hswap
    | descending => exact absurd rfl h
  | gt => cases direction with
    | ascending => exact absurd rfl h
    | descending => exact absurd rfl hswap

/-- Accounts in the order of their creation, or in the reverse order. -/
def Chronological (direction : Direction) (users : List User) : Prop :=
  users.Pairwise fun a b => direction.apply (a.createdAt.cmp b.createdAt) ≠ .gt

end Direction

namespace User

/-- Accounts sorted by the text of the time of their creation. -/
def sortByCreation (direction : Direction) (users : List User) : List User :=
  users.mergeSort fun a b => SortOrder.compareDocs [⟨"createdAt", direction⟩] a.toJson b.toJson != .gt

theorem map_toJson_sortByCreation (direction : Direction) (users : List User) :
    (sortByCreation direction users).map toJson =
      SortOrder.sort [⟨"createdAt", direction⟩] (users.map toJson) :=
  List.map_mergeSort fun _ _ _ _ => rfl

theorem perm_sortByCreation (direction : Direction) (users : List User) :
    (sortByCreation direction users).Perm users := List.mergeSort_perm users _

/-- Sorted accounts are in the order of the texts. -/
theorem pairwise_sortByCreation (direction : Direction) (users : List User) :
    (sortByCreation direction users).Pairwise fun a b =>
      direction.apply (compare a.createdAt.render b.createdAt.render) ≠ .gt := by
  have hsorted := (SortOrder.isStableSort_sort [⟨"createdAt", direction⟩] (users.map toJson)).ordered
  rw [← map_toJson_sortByCreation, List.pairwise_map] at hsorted
  simpa only [compareDocs_createdAt] using hsorted

variable {direction : Direction} {users : List User}

/-- Sorted accounts are out of the order of time exactly where one time is the other cut to fewer digits. -/
theorem pairwise_sortByCreation_iff
    (htimes : ∀ u ∈ users, u.createdAt.WellFormed ∧ u.createdAt.HasFourDigitYear) :
    (sortByCreation direction users).Pairwise fun a b =>
      direction.apply (a.createdAt.cmp b.createdAt) = .gt ↔
        a.createdAt.IsCutOf b.createdAt ∨ b.createdAt.IsCutOf a.createdAt := by
  refine (pairwise_sortByCreation direction users).imp_of_mem ?_
  intro a b ha hb hsorted
  obtain ⟨hatime, hayear⟩ := htimes a ((perm_sortByCreation direction users).mem_iff.mp ha)
  obtain ⟨hbtime, hbyear⟩ := htimes b ((perm_sortByCreation direction users).mem_iff.mp hb)
  by_cases hcut : a.createdAt.IsCutOf b.createdAt ∨ b.createdAt.IsCutOf a.createdAt
  · obtain ⟨hne, hswap⟩ := Instant.compare_render_eq_swap hatime hbtime hayear hbyear hcut
    rw [hswap] at hsorted
    exact iff_of_true (not_ne_iff.mp fun h => hne (Direction.eq_of_apply_swap h hsorted)) hcut
  · obtain ⟨hnot, hnot'⟩ := not_or.mp hcut
    rw [Instant.compare_render hatime hbtime hayear hbyear hnot hnot'] at hsorted
    exact iff_of_false hsorted hcut

/-- Sorted accounts are in the order of time exactly if no time is another's cut to fewer digits. -/
theorem chronological_sortByCreation_iff
    (htimes : ∀ u ∈ users, u.createdAt.WellFormed ∧ u.createdAt.HasFourDigitYear) :
    direction.Chronological (sortByCreation direction users) ↔
      ∀ a ∈ users, ∀ b ∈ users, ¬ a.createdAt.IsCutOf b.createdAt := by
  have hpairs := @pairwise_sortByCreation_iff direction users htimes
  have hmem {u : User} := (perm_sortByCreation direction users).mem_iff (a := u)
  constructor
  · intro h a ha b hb hcut
    have hnot : (sortByCreation direction users).Pairwise fun a b =>
        ¬ (a.createdAt.IsCutOf b.createdAt ∨ b.createdAt.IsCutOf a.createdAt) :=
      (h.and hpairs).imp fun ⟨hordered, hiff⟩ => mt hiff.mpr hordered
    have hsymm : Std.Symm fun a b : User =>
        ¬ (a.createdAt.IsCutOf b.createdAt ∨ b.createdAt.IsCutOf a.createdAt) := ⟨fun _ _ h => h ∘ Or.symm⟩
    refine hnot.forall_of_forall ?_ (hmem.mpr ha) (hmem.mpr hb) (.inl hcut)
    intro u _ hself
    exact u.createdAt.not_isCutOf_self (or_self_iff.mp hself)
  · intro hcut
    refine hpairs.imp_of_mem ?_
    intro a b ha hb hiff hafter
    have ha := hmem.mp ha
    have hb := hmem.mp hb
    exact (hiff.mp hafter).elim (hcut a ha b hb) (hcut b hb a ha)

end User

/-! ### Listings -/

namespace Server

theorem listUsers_byCreation (tokens : TokenConfig) (scanLimit hashCost : Nat) (before : Memory)
    (direction : Direction) (hsize : before.users.users.length ≤ scanLimit) :
    (inMemory tokens scanLimit hashCost).listUsers (.byCreation direction) before =
      (.ok ((User.sortByCreation direction (before.users.users.map (·.user))).map User.toJson), before) := by
  have hdocuments : before.users.documents.take scanLimit =
      (before.users.users.map (·.user)).map User.toJson := by
    rw [List.map_map]
    exact List.take_of_length_le (Nat.le_trans (Nat.le_of_eq (List.length_map _)) hsize)
  have hscan : ({ sort := some [⟨"createdAt", direction⟩] } : Query).isWindow = false := rfl
  rw [listUsers_eq, QueryText.read_byCreation]
  dsimp only
  rw [hscan, if_neg Bool.false_ne_true, Directory.documents_list_first, hdocuments, Query.apply_sort,
    User.map_toJson_sortByCreation]

/-- **Which accounts a listing by the time of creation puts out of order.** It lists all accounts, and of two of
them the wrong one first exactly if the time of one is that of the other cut to fewer digits: times are sorted as
texts, and an account that was created on the full second, millisecond or microsecond goes after those that were
created within it. So the listing is chronological exactly if there are no such two accounts. -/
theorem listUsers_chronological_iff (tokens : TokenConfig) (scanLimit hashCost : Nat) (before : Memory)
    (direction : Direction) (hsize : before.users.users.length ≤ scanLimit)
    (htimes : ∀ row ∈ before.users.users,
      row.user.createdAt.WellFormed ∧ row.user.createdAt.HasFourDigitYear) :
    ∃ listed : List User,
      (inMemory tokens scanLimit hashCost).listUsers (.byCreation direction) before =
        (.ok (listed.map User.toJson), before) ∧
      listed.Perm (before.users.users.map (·.user)) ∧
      (listed.Pairwise fun a b => direction.apply (a.createdAt.cmp b.createdAt) = .gt ↔
        a.createdAt.IsCutOf b.createdAt ∨ b.createdAt.IsCutOf a.createdAt) ∧
      (direction.Chronological listed ↔
        ∀ a ∈ before.users.users, ∀ b ∈ before.users.users,
          ¬ a.user.createdAt.IsCutOf b.user.createdAt) := by
  have htimes : ∀ u ∈ before.users.users.map (·.user),
      u.createdAt.WellFormed ∧ u.createdAt.HasFourDigitYear := List.forall_mem_map.mpr htimes
  refine ⟨_, listUsers_byCreation tokens scanLimit hashCost before direction hsize,
    User.perm_sortByCreation _ _, User.pairwise_sortByCreation_iff htimes, ?_⟩
  rw [User.chronological_sortByCreation_iff htimes, List.forall_mem_map]
  exact forall₂_congr fun a ha => List.forall_mem_map

/-- Two accounts of one second, both created on a millisecond of it, are listed the later one first. -/
theorem sample_listing_newest_first :
    ∃ listed : List User,
      (inMemory sampleConfig 10 4).listUsers (.byCreation .descending)
          (sampleAccounts ⟨1704067200, 250000000⟩ ⟨1704067200, 500000000⟩) =
        (.ok (listed.map User.toJson), sampleAccounts ⟨1704067200, 250000000⟩ ⟨1704067200, 500000000⟩) ∧
      Direction.Chronological .descending listed := by
  have htimes : ∀ row ∈ (sampleAccounts ⟨1704067200, 250000000⟩ ⟨1704067200, 500000000⟩).users.users,
      row.user.createdAt.WellFormed ∧ row.user.createdAt.HasFourDigitYear := by decide
  obtain ⟨listed, hlisted, -, -, hchronological⟩ :=
    listUsers_chronological_iff sampleConfig 10 4 _ .descending (by decide) htimes
  exact ⟨listed, hlisted, hchronological.mpr (by decide)⟩

/-- Of two accounts, the first was created on the full second and the other half a second after it: upwards,
the other one is listed first. -/
theorem listing_puts_later_account_first :
    ∃ earlier later : User, earlier.createdAt.before later.createdAt = true ∧
      (inMemory sampleConfig 10 4).listUsers (.byCreation .ascending)
          (sampleAccounts ⟨1704067200, 0⟩ ⟨1704067200, 500000000⟩) =
        (.ok [later.toJson, earlier.toJson], sampleAccounts ⟨1704067200, 0⟩ ⟨1704067200, 500000000⟩) := by
  let ada : User := ⟨"u1", "ada", "Ada", some "ada@x", adminRole, ⟨1704067200, 0⟩, ⟨1704067200, 0⟩⟩
  let bob : User :=
    ⟨"u2", "bob", "Bob", none, userRole, ⟨1704067200, 500000000⟩, ⟨1704067200, 500000000⟩⟩
  have htexts : compare ada.createdAt.render bob.createdAt.render = .gt :=
    (Instant.compare_render_of_isCutOf (by decide) (by decide) (by decide) (by decide) (by decide)).2
  have hsorted : User.sortByCreation .ascending [ada, bob] = [bob, ada] := by
    simp [User.sortByCreation, User.compareDocs_createdAt, Direction.apply, htexts, List.mergeSort]
  refine ⟨ada, bob, by decide, ?_⟩
  rw [listUsers_byCreation _ _ _ _ _ (by decide)]
  exact congrArg (fun users => (Except.ok (users.map User.toJson), _)) hsorted

end Server

end Gatehouse

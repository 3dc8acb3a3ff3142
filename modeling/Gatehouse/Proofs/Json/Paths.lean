import Gatehouse.Query.Projection
import Gatehouse.Proofs.Json.Grammar

/-!
# Places in nested objects

A place is a list of keys that leads into nested objects. What is found at any place after a value was written at one
depends on how the two places lie: at the written place and inside it is the value (`Json.follow_setPath_append`), above
it are objects (`Json.exists_follow_setPath`), and apart from it nothing has changed (`Json.follow_setPath_of_apart`).
After an entry was taken out it is the same, with nothing in place of the value (`Json.follow_removePath_append`,
`Json.follow_removePath_above`, `Json.follow_removePath_of_apart`). Values in which the same is found at every place
are the same but for the order of entries (`Json.Reordered.of_follow`).
-/

namespace Gatehouse

namespace Json

/-! ### Following keys -/

@[simp] theorem follow_nil (v : Json) : follow [] v = some v := rfl

@[simp] theorem follow_cons_object (key : String) (place : List String) (entries : Entries) :
    follow (key :: place) (.object entries) = (Assoc.get? key entries).bind (follow place) := rfl

theorem follow_singleton (key : String) (entries : Entries) :
    follow [key] (.object entries) = Assoc.get? key entries := Option.bind_fun_some _

theorem follow_append (place rest : List String) (v : Json) :
    follow (place ++ rest) v = (follow place v).bind (follow rest) := by
  induction place generalizing v with
  | nil => rfl
  | cons key place ih =>
    rw [List.cons_append, follow, follow, Option.bind_assoc]
    exact Option.bind_congr fun w _ => ih w

/-- Only inside an object there is something to find. -/
theorem exists_object_of_follow {key : String} {place : List String} {v w : Json}
    (h : follow (key :: place) v = some w) : ∃ entries, v = .object entries := by
  cases v with
  | object entries => exact ⟨entries, rfl⟩
  | _ => exact absurd h (by simp [follow, field?])

/-- Above a value that is found there are objects. -/
theorem exists_object_above {before rest : List String} {v w : Json} (hrest : rest ≠ [])
    (h : follow (before ++ rest) v = some w) :
    ∃ entries, follow before v = some (.object entries) ∧ follow rest (.object entries) = some w := by
  rw [follow_append] at h
  obtain ⟨u, hu, hw⟩ := Option.bind_eq_some_iff.mp h
  obtain ⟨key, place, rfl⟩ := List.exists_cons_of_ne_nil hrest
  obtain ⟨entries, rfl⟩ := exists_object_of_follow hw
  exact ⟨entries, hu, hw⟩

theorem segments_ne_nil (path : String) : segments path ≠ [] := by
  rw [segments, Ne, List.map_eq_nil_iff]
  exact List.splitOn_ne_nil '.' _

/-- Neither of two places is the other or inside it. -/
def Apart (place other : List String) : Prop := ¬ place <+: other ∧ ¬ other <+: place

instance (place other : List String) : Decidable (Apart place other) := inferInstanceAs (Decidable (_ ∧ _))

theorem Apart.exists_cons {key : String} {place other : List String} (h : Apart (key :: place) other) :
    ∃ k other', other = k :: other' := by
  cases other with
  | nil => exact absurd List.nil_prefix h.2
  | cons k other' => exact ⟨k, other', rfl⟩

/-- Places apart that begin with the same key are apart inside it. -/
theorem Apart.tail {key : String} {place other : List String} (h : Apart (key :: place) (key :: other)) :
    Apart place other := by
  rw [Apart, List.prefix_cons_inj, List.prefix_cons_inj] at h
  exact h

theorem Apart.ne_nil {place other : List String} (h : Apart place other) : place ≠ [] ∧ other ≠ [] := by
  constructor
  · rintro rfl
    exact h.1 List.nil_prefix
  · rintro rfl
    exact h.2 List.nil_prefix

/-- How two places lie: the other one inside, or truly above, or apart. -/
theorem inside_or_above_or_apart (place other : List String) :
    (∃ rest, other = place ++ rest) ∨ (∃ rest, rest ≠ [] ∧ place = other ++ rest) ∨ Apart place other := by
  by_cases hinside : place <+: other
  · obtain ⟨rest, rfl⟩ := hinside
    exact .inl ⟨rest, rfl⟩
  · by_cases habove : other <+: place
    · obtain ⟨rest, rfl⟩ := habove
      refine .inr (.inl ⟨rest, ?_, rfl⟩)
      rintro rfl
      exact hinside ⟨[], by simp⟩
    · exact .inr (.inr ⟨hinside, habove⟩)

/-! ### Writing a value -/

/-- Nothing blocks the way to a place: what is there on the way are objects. -/
def Admits (place : List String) (entries : Entries) : Prop :=
  ∀ before rest, place = before ++ rest → rest ≠ [] → ∀ v, follow before (.object entries) = some v →
    ∃ child, v = .object child

/-- The entries of the object under a key; none if there is none. -/
def childEntries (key : String) (entries : Entries) : Entries :=
  match Assoc.get? key entries with
  | some (.object child) => child
  | _ => []

theorem Admits.tail {key : String} {place : List String} {entries : Entries} (h : Admits (key :: place) entries) :
    Admits place (childEntries key entries) := by
  intro before rest hplace hrest v hv
  cases before with
  | nil => exact ⟨_, (Option.some.inj hv).symm⟩
  | cons k before =>
    refine h (key :: k :: before) rest (by rw [hplace]; rfl) hrest v ?_
    rw [childEntries] at hv
    split at hv
    next child hchild => rw [follow_cons_object, hchild, Option.bind_some, hv]
    next => exact absurd hv (by simp [Assoc.get?])

theorem setPath_cons_cons (value : Json) (key key' : String) (place : List String) (entries : Entries) :
    setPath value (key :: key' :: place) entries =
      match Assoc.get? key entries with
      | none => Assoc.put key (.object (setPath value (key' :: place) [])) entries
      | some (.object child) => Assoc.put key (.object (setPath value (key' :: place) child)) entries
      | some _ => entries := rfl

/-- Where nothing blocks, a value is written into the object under the first key. -/
theorem setPath_cons {key : String} {place : List String} {entries : Entries} (h : Admits (key :: place) entries)
    (hplace : place ≠ []) (value : Json) : setPath value (key :: place) entries =
      Assoc.put key (.object (setPath value place (childEntries key entries))) entries := by
  obtain ⟨key', place', rfl⟩ := List.exists_cons_of_ne_nil hplace
  rw [setPath_cons_cons, childEntries]
  cases hget : Assoc.get? key entries with
  | none => rfl
  | some v =>
    obtain ⟨child, rfl⟩ := h [key] (key' :: place') rfl hplace v (by rw [follow_cons_object, hget]; rfl)
    rfl

/-- **The value is found where it was written**, and so is what it holds. -/
theorem follow_setPath_append {place : List String} {entries : Entries} (h : Admits place entries)
    (hplace : place ≠ []) (value : Json) (rest : List String) :
    follow (place ++ rest) (.object (setPath value place entries)) = follow rest value := by
  induction place generalizing entries with
  | nil => exact absurd rfl hplace
  | cons key place ih =>
    by_cases hlast : place = []
    · subst hlast
      rw [setPath, List.singleton_append, follow_cons_object, Assoc.get?_put, if_pos rfl, Option.bind_some]
    · rw [setPath_cons h hlast, List.cons_append, follow_cons_object, Assoc.get?_put, if_pos rfl, Option.bind_some,
        ih h.tail hlast]

/-- Above the place where a value was written there are objects. -/
theorem exists_follow_setPath {before rest : List String} {entries : Entries} (h : Admits (before ++ rest) entries)
    (hrest : rest ≠ []) (value : Json) :
    ∃ child, follow before (.object (setPath value (before ++ rest) entries)) = some (.object child) := by
  induction before generalizing entries with
  | nil => exact ⟨_, rfl⟩
  | cons key before ih =>
    have hplace : before ++ rest ≠ [] := List.append_ne_nil_of_right_ne_nil before hrest
    rw [List.cons_append] at h ⊢
    rw [setPath_cons h hplace, follow_cons_object, Assoc.get?_put, if_pos rfl, Option.bind_some]
    exact ih h.tail

/-- Writing under one key leaves the others alone. -/
theorem get?_setPath_of_ne {key k : String} (h : k ≠ key) (value : Json) (place : List String) (entries : Entries) :
    Assoc.get? k (setPath value (key :: place) entries) = Assoc.get? k entries := by
  cases place with
  | nil => rw [setPath, Assoc.get?_put, if_neg h]
  | cons key' place =>
    rw [setPath_cons_cons]
    split
    · rw [Assoc.get?_put, if_neg h]
    · rw [Assoc.get?_put, if_neg h]
    · rfl

/-- **Apart from the place where a value was written nothing has changed.** -/
theorem follow_setPath_of_apart {place other : List String} (h : Apart place other) (value : Json) (entries : Entries) :
    follow other (.object (setPath value place entries)) = follow other (.object entries) := by
  induction place generalizing other entries with
  | nil => exact absurd rfl h.ne_nil.1
  | cons key place ih =>
    obtain ⟨k, other, rfl⟩ := h.exists_cons
    rw [follow_cons_object, follow_cons_object]
    by_cases hk : k = key
    · subst hk
      obtain ⟨key', place', rfl⟩ := List.exists_cons_of_ne_nil h.tail.ne_nil.1
      obtain ⟨k', other', rfl⟩ := List.exists_cons_of_ne_nil h.tail.ne_nil.2
      rw [setPath_cons_cons]
      split
      next hnone =>
        rw [Assoc.get?_put, if_pos rfl, hnone, Option.bind_some, ih h.tail]
        rfl
      next child hchild => rw [Assoc.get?_put, if_pos rfl, hchild, Option.bind_some, Option.bind_some, ih h.tail]
      next => rfl
    · rw [get?_setPath_of_ne hk]

/-- Writing what is found there changes nothing. -/
theorem setPath_self {place : List String} {entries : Entries} {value : Json}
    (h : follow place (.object entries) = some value) : setPath value place entries = entries := by
  induction place generalizing entries with
  | nil => rw [setPath]
  | cons key place ih =>
    rw [follow_cons_object] at h
    obtain ⟨v, hv, hvalue⟩ := Option.bind_eq_some_iff.mp h
    cases place with
    | nil =>
      obtain rfl := Option.some.inj hvalue
      rw [setPath, Assoc.put_self hv]
    | cons key' place =>
      obtain ⟨child, rfl⟩ := exists_object_of_follow hvalue
      rw [setPath_cons_cons, hv]
      dsimp only
      rw [ih hvalue, Assoc.put_self hv]

/-! ### Taking an entry out -/

theorem DistinctKeys.nodup {entries : Entries} (h : DistinctKeys (.object entries)) : (entries.map (·.1)).Nodup := by
  cases h with
  | object hkeys _ => exact hkeys

theorem DistinctKeys.of_mem {entries : Entries} {e : String × Json} (h : DistinctKeys (.object entries))
    (he : e ∈ entries) : DistinctKeys e.2 := by
  cases h with
  | object _ hvalues => exact hvalues e he

theorem DistinctKeys.of_get? {key : String} {entries : Entries} {v : Json} (h : DistinctKeys (.object entries))
    (hv : Assoc.get? key entries = some v) : DistinctKeys v := h.of_mem (Assoc.mem_of_get? hv)

theorem removePath_cons_cons (key key' : String) (place : List String) (entries : Entries) :
    removePath (key :: key' :: place) entries =
      match Assoc.get? key entries with
      | some (.object child) => Assoc.put key (.object (removePath (key' :: place) child)) entries
      | _ => entries := rfl

/-- **Nothing is found where an entry was taken out**, or inside it. -/
theorem follow_removePath_append {place : List String} {entries : Entries} (h : DistinctKeys (.object entries))
    (hplace : place ≠ []) (rest : List String) :
    follow (place ++ rest) (.object (removePath place entries)) = none := by
  induction place generalizing entries with
  | nil => exact absurd rfl hplace
  | cons key place ih =>
    cases place with
    | nil =>
      rw [removePath, List.singleton_append, follow_cons_object, Assoc.get?_swapErase key h.nodup, if_pos rfl,
        Option.bind_none]
    | cons key' place =>
      rw [removePath_cons_cons, List.cons_append, follow_cons_object]
      split
      next child hchild =>
        rw [Assoc.get?_put, if_pos rfl, Option.bind_some]
        exact ih (h.of_get? hchild) (List.cons_ne_nil key' place)
      next hnone =>
        -- there is no object on the way, so there is nothing to find either
        refine Option.bind_eq_none_iff.mpr fun v hv => ?_
        cases v with
        | object child => exact absurd hv (hnone child)
        | _ => rfl

/-- Above an entry that was taken out the objects have lost that entry. -/
theorem follow_removePath_above {before rest : List String} {entries child : Entries} (hrest : rest ≠ [])
    (h : follow before (.object entries) = some (.object child)) :
    follow before (.object (removePath (before ++ rest) entries)) = some (.object (removePath rest child)) := by
  induction before generalizing entries with
  | nil =>
    obtain ⟨⟩ := h
    rfl
  | cons key before ih =>
    obtain ⟨key', place, hplace⟩ := List.exists_cons_of_ne_nil (List.append_ne_nil_of_right_ne_nil before hrest)
    rw [follow_cons_object] at h
    obtain ⟨v, hv, hchild⟩ := Option.bind_eq_some_iff.mp h
    have hobject : ∃ inner, v = .object inner := by
      cases before with
      | nil => exact ⟨child, Option.some.inj hchild⟩
      | cons k before => exact exists_object_of_follow hchild
    obtain ⟨inner, rfl⟩ := hobject
    rw [List.cons_append, hplace, removePath_cons_cons, hv, follow_cons_object]
    dsimp only
    rw [Assoc.get?_put, if_pos rfl, Option.bind_some, ← hplace]
    exact ih hchild

/-- **Apart from the place where an entry was taken out nothing has changed.** -/
theorem follow_removePath_of_apart {place other : List String} (h : Apart place other) {entries : Entries}
    (hkeys : DistinctKeys (.object entries)) :
    follow other (.object (removePath place entries)) = follow other (.object entries) := by
  induction place generalizing other entries with
  | nil => exact absurd rfl h.ne_nil.1
  | cons key place ih =>
    obtain ⟨k, other, rfl⟩ := h.exists_cons
    rw [follow_cons_object, follow_cons_object]
    cases place with
    | nil =>
      have hne : k ≠ key := by
        rintro rfl
        exact h.tail.ne_nil.1 rfl
      rw [removePath, Assoc.get?_swapErase key hkeys.nodup, if_neg hne]
    | cons key' place =>
      rw [removePath_cons_cons]
      split
      next child hchild =>
        rw [Assoc.get?_put]
        by_cases hk : k = key
        · subst hk
          rw [if_pos rfl, hchild, Option.bind_some, Option.bind_some]
          exact ih h.tail (hkeys.of_get? hchild)
        · rw [if_neg hk]
      next => rfl

/-- Where nothing is found there is nothing to take out. -/
theorem removePath_eq_self {place : List String} {entries : Entries} (h : follow place (.object entries) = none) :
    removePath place entries = entries := by
  induction place generalizing entries with
  | nil => rfl
  | cons key place ih =>
    cases place with
    | nil =>
      rw [follow_singleton] at h
      rw [removePath, Assoc.swapErase_eq_self h]
    | cons key' place =>
      rw [removePath_cons_cons]
      split
      next child hchild =>
        rw [follow_cons_object, hchild, Option.bind_some] at h
        rw [ih h, Assoc.put_self hchild]
      next => rfl

/-- Taking an entry out brings nothing in. -/
theorem follow_removePath_eq_none {place other : List String} {entries : Entries}
    (hkeys : DistinctKeys (.object entries)) (hplace : place ≠ []) (h : follow other (.object entries) = none) :
    follow other (.object (removePath place entries)) = none := by
  obtain ⟨rest, rfl⟩ | ⟨rest, -, rfl⟩ | hapart := inside_or_above_or_apart place other
  · exact follow_removePath_append hkeys hplace rest
  · have hnone : follow (other ++ rest) (.object entries) = none := by rw [follow_append, h, Option.bind_none]
    rw [removePath_eq_self hnone, h]
  · rw [follow_removePath_of_apart hapart hkeys, h]

/-- Keys stay distinct when an entry is taken out. -/
theorem distinctKeys_removePath {entries : Entries} (h : DistinctKeys (.object entries)) (place : List String) :
    DistinctKeys (.object (removePath place entries)) := by
  induction place generalizing entries with
  | nil => exact h
  | cons key place ih =>
    cases place with
    | nil =>
      have hperm := Assoc.perm_swapErase key h.nodup
      refine .object ?_ ?_
      · exact (hperm.map _).nodup_iff.mpr (h.nodup.sublist (List.filter_sublist.map _))
      · intro e he
        exact h.of_mem (List.mem_of_mem_filter (hperm.mem_iff.mp he))
    | cons key' place =>
      rw [removePath_cons_cons]
      split
      next child hchild =>
        have hinner := ih (h.of_get? hchild)
        obtain ⟨before, after, rfl, hput⟩ := Assoc.exists_split_of_get? hchild
        rw [hput]
        refine .object ?_ ?_
        · simpa using h.nodup
        · intro e he
          rcases List.mem_append.mp he with hbefore | hrest
          · exact h.of_mem (List.mem_append_left _ hbefore)
          · rcases List.mem_cons.mp hrest with rfl | hafter
            · exact hinner
            · exact h.of_mem (List.mem_append_right _ (List.mem_cons_of_mem _ hafter))
      next => exact h

/-! ### The order of entries -/

/-- Two values are the same but for the order in which objects, nested in objects, hold their entries. -/
inductive Reordered : Json → Json → Prop where
  | same (v : Json) : Reordered v v
  | object {entries entries' : Entries} (hkeys : (entries.map (·.1)).Perm (entries'.map (·.1)))
      (hvalues : ∀ key v v', Assoc.get? key entries = some v → Assoc.get? key entries' = some v' → Reordered v v') :
      Reordered (.object entries) (.object entries')

/-- What is found in two values at one place: the same, or an object each. -/
def Alike (v w : Option Json) : Prop :=
  v = w ∨ ∃ entries entries', v = some (.object entries) ∧ w = some (.object entries')

theorem Alike.isSome_eq {v w : Option Json} (h : Alike v w) : v.isSome = w.isSome := by
  obtain rfl | ⟨entries, entries', rfl, rfl⟩ := h
  · rfl
  · rfl

/-- **Values in which alike is found at every place are the same but for the order of entries.** -/
theorem Reordered.of_follow {v w : Json} (hv : DistinctKeys v) (hw : DistinctKeys w)
    (h : ∀ place, Alike (follow place v) (follow place w)) : Reordered v w := by
  induction hv generalizing w with
  | null | bool | number | string | array =>
    obtain heq | ⟨_, _, hobject, -⟩ := h []
    · exact Option.some.inj heq ▸ .same _
    · exact absurd (Option.some.inj hobject) nofun
  | @object entries hkeys _ ih =>
    obtain ⟨entries', rfl⟩ : ∃ entries', w = .object entries' := by
      obtain heq | ⟨_, entries', -, hobject⟩ := h []
      · exact ⟨entries, (Option.some.inj heq).symm⟩
      · exact ⟨entries', Option.some.inj hobject⟩
    refine .object ?_ ?_
    · refine (List.perm_ext_iff_of_nodup hkeys hw.nodup).mpr fun key => ?_
      have hsame := (h [key]).isSome_eq
      rw [follow_singleton, follow_singleton] at hsame
      rw [← Assoc.hasKey_iff, ← Assoc.hasKey_iff, Assoc.hasKey, Assoc.hasKey, hsame]
    · intro key v v' hget hget'
      refine ih (key, v) (Assoc.mem_of_get? hget) (hw.of_get? hget') fun place => ?_
      have hinside := h (key :: place)
      rwa [follow_cons_object, follow_cons_object, hget, hget', Option.bind_some, Option.bind_some] at hinside

end Json

end Gatehouse

import Mathlib.Data.List.Induction
import Mathlib.Data.List.Nodup
import Gatehouse.Assoc

/-!
# What ordered tables hold

What is found in a table after an entry was written or taken out, for an arbitrary key, so that the
change and the frame are one statement (`Assoc.get?_put`, `Assoc.get?_erase`, `Assoc.get?_swapErase`); in which
place an entry is written (`Assoc.put_eq_append`, `Assoc.keys_put`); and what entries are brought together to in
which keys come again (`Assoc.Merges`).
-/

namespace Gatehouse

namespace Assoc

variable {α : Type}

/-- What is found after an entry was written. -/
theorem get?_put (key : String) (value : α) (entries : List (String × α)) (k : String) :
    get? k (put key value entries) = if k = key then some value else get? k entries := by
  induction entries with
  | nil => simp [put, get?, eq_comm]
  | cons e rest ih =>
    obtain ⟨k', v⟩ := e
    rw [put]
    by_cases hk' : k' = key
    · subst hk'
      by_cases hk : k' = k
      · simp [get?, hk]
      · simp [get?, hk, Ne.symm hk]
    · rw [if_neg hk', get?, get?, ih]
      by_cases hk : k' = k
      · rw [if_pos hk, if_pos hk, if_neg (hk ▸ hk')]
      · rw [if_neg hk, if_neg hk]

/-- What is found after the entries of a key were taken out. -/
theorem get?_erase (key : String) (entries : List (String × α)) (k : String) :
    get? k (erase key entries) = if k = key then none else get? k entries := by
  induction entries with
  | nil => simp [erase, get?]
  | cons e rest ih =>
    obtain ⟨k', v⟩ := e
    rw [erase, List.filter_cons]
    change get? k (if (k' ≠ key : Bool) then (k', v) :: erase key rest else erase key rest) = _
    by_cases hk' : k' = key
    · rw [if_neg (by simpa using hk'), ih]
      by_cases hk : k = key
      · rw [if_pos hk, if_pos hk]
      · rw [if_neg hk, if_neg hk, get?, if_neg fun h : k' = k => hk (h ▸ hk')]
    · rw [if_pos (by simpa using hk'), get?, get?, ih]
      by_cases hk : k' = k
      · rw [if_pos hk, if_pos hk, if_neg (hk ▸ hk')]
      · rw [if_neg hk, if_neg hk]

/-! ### Keys -/

theorem hasKey_iff {key : String} {entries : List (String × α)} :
    hasKey key entries = true ↔ key ∈ entries.map (·.1) := by
  induction entries with
  | nil => simp [hasKey, get?]
  | cons e rest ih =>
    obtain ⟨k, v⟩ := e
    rw [hasKey] at ih
    rw [hasKey, get?, List.map_cons, List.mem_cons]
    by_cases hk : k = key
    · simp [hk]
    · rw [if_neg hk, ih]
      simp [Ne.symm hk]

theorem hasKey_eq_false_iff {key : String} {entries : List (String × α)} :
    hasKey key entries = false ↔ key ∉ entries.map (·.1) := by
  rw [← hasKey_iff, Bool.not_eq_true]

/-- The keys after an entry was written. -/
theorem hasKey_put (key : String) (value : α) (entries : List (String × α)) (k : String) :
    hasKey k (put key value entries) = (k == key || hasKey k entries) := by
  rw [hasKey, get?_put]
  by_cases hk : k = key
  · simp [hk]
  · simp [hk, hasKey]

/-- What is found is an entry. -/
theorem mem_of_get? {key : String} {entries : List (String × α)} {v : α} (h : get? key entries = some v) :
    (key, v) ∈ entries := by
  induction entries with
  | nil => exact absurd h (by simp [get?])
  | cons e rest ih =>
    obtain ⟨k, w⟩ := e
    rw [get?] at h
    split at h
    next hk =>
      obtain rfl := Option.some.inj h
      exact hk ▸ List.mem_cons_self
    next hk => exact List.mem_cons_of_mem _ (ih h)

/-- Where each key has one entry, every entry is found. -/
theorem get?_of_mem {key : String} {entries : List (String × α)} {v : α}
    (hkeys : (entries.map (·.1)).Nodup) (h : (key, v) ∈ entries) : get? key entries = some v := by
  induction entries with
  | nil => exact absurd h List.not_mem_nil
  | cons e rest ih =>
    obtain ⟨k, w⟩ := e
    rw [List.map_cons, List.nodup_cons] at hkeys
    rw [get?]
    rcases List.mem_cons.mp h with heq | hrest
    · obtain ⟨rfl, rfl⟩ := Prod.mk.inj heq
      rw [if_pos rfl]
    · have hne : k ≠ key := fun hk => hkeys.1 (List.mem_map.mpr ⟨_, hrest, hk.symm⟩)
      rw [if_neg hne, ih hkeys.2 hrest]

/-- Of two values written under one key the second stays. -/
theorem put_put (key : String) (first second : α) (entries : List (String × α)) :
    put key second (put key first entries) = put key second entries := by
  induction entries with
  | nil => simp [put]
  | cons e rest ih =>
    obtain ⟨k, v⟩ := e
    by_cases hk : k = key
    · rw [put, if_pos hk, put, if_pos hk, put, if_pos hk]
    · rw [put, if_neg hk, put, if_neg hk, ih, put, if_neg hk]

/-- Writing what is there changes nothing. -/
theorem put_self {key : String} {value : α} {entries : List (String × α)} (h : get? key entries = some value) :
    put key value entries = entries := by
  induction entries with
  | nil => exact absurd h (by simp [get?])
  | cons e rest ih =>
    obtain ⟨k, v⟩ := e
    rw [get?] at h
    split at h
    next hk =>
      obtain rfl := Option.some.inj h
      rw [put, if_pos hk]
    next hk => rw [put, if_neg hk, ih h]

/-- A new entry goes to the end. -/
theorem put_eq_append {key : String} {entries : List (String × α)} (value : α)
    (h : hasKey key entries = false) : put key value entries = entries ++ [(key, value)] := by
  induction entries with
  | nil => rfl
  | cons e rest ih =>
    obtain ⟨k, v⟩ := e
    rw [hasKey, get?] at h
    split at h
    · exact absurd h (by simp)
    next hk => rw [put, if_neg hk, ih h, List.cons_append]

/-- An entry that is there is found in the first place of its key. -/
theorem exists_split_of_get? {key : String} {entries : List (String × α)} {v : α}
    (h : get? key entries = some v) : ∃ before after, entries = before ++ (key, v) :: after ∧
      ∀ value, put key value entries = before ++ (key, value) :: after := by
  induction entries with
  | nil => exact absurd h (by simp [get?])
  | cons e rest ih =>
    obtain ⟨k, w⟩ := e
    rw [get?] at h
    split at h
    next hk =>
      obtain rfl := Option.some.inj h
      subst hk
      exact ⟨[], rest, rfl, fun value => by rw [put, if_pos rfl, List.nil_append]⟩
    next hk =>
      obtain ⟨before, after, rfl, hput⟩ := ih h
      exact ⟨(k, w) :: before, after, rfl, fun value => by rw [put, if_neg hk, hput, List.cons_append]⟩

/-- A key keeps its place when it is written again, and goes to the end when it is new. -/
theorem keys_put (key : String) (value : α) (entries : List (String × α)) :
    (put key value entries).map (·.1) =
      if key ∈ entries.map (·.1) then entries.map (·.1) else entries.map (·.1) ++ [key] := by
  split
  next hmem =>
    rw [← hasKey_iff, hasKey, Option.isSome_iff_exists] at hmem
    obtain ⟨v, hv⟩ := hmem
    obtain ⟨before, after, rfl, hput⟩ := exists_split_of_get? hv
    rw [hput, List.map_append, List.map_append, List.map_cons, List.map_cons]
  next hmem => rw [put_eq_append value (hasKey_eq_false_iff.mpr hmem), List.map_append, List.map_singleton]

/-- Tables in which each key has one entry are equal if they have the same keys in the same places, and the
same values under them. -/
theorem eq_of_keys_of_get? {entries entries' : List (String × α)} (hnodup : (entries.map (·.1)).Nodup)
    (hkeys : entries.map (·.1) = entries'.map (·.1)) (hvalues : ∀ key, get? key entries = get? key entries') :
    entries = entries' := by
  induction entries generalizing entries' with
  | nil => exact (List.map_eq_nil_iff.mp hkeys.symm).symm
  | cons e rest ih =>
    cases entries' with
    | nil => exact absurd hkeys (List.cons_ne_nil _ _)
    | cons e' rest' =>
      obtain ⟨k, v⟩ := e
      obtain ⟨k', v'⟩ := e'
      rw [List.map_cons, List.map_cons, List.cons.injEq] at hkeys
      rw [List.map_cons, List.nodup_cons] at hnodup
      obtain ⟨rfl, hrest⟩ := hkeys
      have hv : v = v' := by simpa [get?] using hvalues k
      have hvalues' (key : String) : get? key rest = get? key rest' := by
        by_cases hk : k = key
        · have hmissing {t : List (String × α)} (ht : k ∉ t.map (·.1)) : get? key t = none := by
            have hkey := hasKey_eq_false_iff.mpr ht
            rwa [hk, hasKey, Option.isSome_eq_false_iff, Option.isNone_iff_eq_none] at hkey
          rw [hmissing hnodup.1, hmissing (hrest ▸ hnodup.1)]
        · simpa only [get?, if_neg hk] using hvalues key
      rw [hv, ih hnodup.2 hrest hvalues']

/-! ### Entries taken out -/

/-- Where each key has one entry, the order of the entries does not matter to what is found. -/
theorem get?_perm {entries entries' : List (String × α)} (hnodup : (entries.map (·.1)).Nodup)
    (h : entries'.Perm entries) (key : String) : get? key entries' = get? key entries := by
  have hnodup' : (entries'.map (·.1)).Nodup := (h.map _).nodup_iff.mpr hnodup
  ext v
  constructor
  · intro hv
    exact get?_of_mem hnodup (h.mem_iff.mp (mem_of_get? hv))
  · intro hv
    exact get?_of_mem hnodup' (h.mem_iff.mpr (mem_of_get? hv))

theorem perm_rotateLast {β : Type} (xs : List β) : (rotateLast xs).Perm xs := by
  rcases List.eq_nil_or_concat xs with rfl | ⟨ys, x, rfl⟩
  · exact .refl _
  · rw [rotateLast, List.concat_eq_append, List.getLast?_concat, List.dropLast_concat]
    exact (List.perm_append_singleton x ys).symm

/-- Where each key has one entry, the two ways to take one out differ in the order that they leave. -/
theorem perm_swapErase (key : String) {entries : List (String × α)} (hnodup : (entries.map (·.1)).Nodup) :
    (swapErase key entries).Perm (erase key entries) := by
  induction entries with
  | nil => exact .refl _
  | cons e rest ih =>
    obtain ⟨k, v⟩ := e
    rw [List.map_cons, List.nodup_cons] at hnodup
    rw [swapErase, erase, List.filter_cons]
    by_cases hk : k = key
    · subst hk
      have hrest : rest.filter (fun e => e.1 ≠ k) = rest := by
        refine List.filter_eq_self.mpr fun e he => decide_eq_true ?_
        intro heq
        exact hnodup.1 (List.mem_map.mpr ⟨e, he, heq⟩)
      rw [if_pos rfl, if_neg (by simp), hrest]
      exact perm_rotateLast rest
    · rw [if_neg hk, if_pos (by simpa using hk)]
      exact (ih hnodup.2).cons _

/-- What is found after an entry was taken out and the last one moved into its place. -/
theorem get?_swapErase (key : String) {entries : List (String × α)} (hnodup : (entries.map (·.1)).Nodup) (k : String) :
    get? k (swapErase key entries) = if k = key then none else get? k entries := by
  have hnodup' : ((erase key entries).map (·.1)).Nodup := hnodup.sublist (List.filter_sublist.map _)
  rw [get?_perm hnodup' (perm_swapErase key hnodup), get?_erase]

/-- A key that is not there takes nothing out. -/
theorem swapErase_eq_self {key : String} {entries : List (String × α)} (h : get? key entries = none) :
    swapErase key entries = entries := by
  induction entries with
  | nil => rfl
  | cons e rest ih =>
    obtain ⟨k, v⟩ := e
    rw [get?] at h
    split at h
    · exact absurd h (Option.some_ne_none v)
    next hk => rw [swapErase, if_neg hk, ih h]

/-! ### Entries brought together -/

/-- Of keys that come again only the first places count. -/
theorem eraseDups_concat (keys : List String) (key : String) :
    (keys ++ [key]).eraseDups = if key ∈ keys then keys.eraseDups else keys.eraseDups ++ [key] := by
  rw [List.eraseDups_append]
  split
  next hkey =>
    have hold : [key].removeAll keys = [] := by simp [List.removeAll, hkey]
    rw [hold, List.eraseDups_nil, List.append_nil]
  next hkey =>
    have hnew : [key].removeAll keys = [key] := by simp [List.removeAll, hkey]
    rw [hnew, List.eraseDups_cons, List.filter_nil, List.eraseDups_nil]

/-- A table brings entries together in which keys may come again: each key keeps its first place and its
last value. -/
structure Merges (written entries : List (String × α)) : Prop where
  keys : entries.map (·.1) = (written.map (·.1)).eraseDups
  values : ∀ key, get? key entries = get? key written.reverse

namespace Merges

variable {written entries : List (String × α)}

theorem nil : Merges ([] : List (String × α)) [] := ⟨rfl, fun _ => rfl⟩

/-- One more entry is brought in by writing it. -/
theorem concat (h : Merges written entries) (key : String) (value : α) :
    Merges (written ++ [(key, value)]) (put key value entries) where
  keys := by
    rw [keys_put, h.keys, List.map_append, List.map_singleton, eraseDups_concat]
    simp only [List.mem_eraseDups]
  values k := by
    rw [get?_put, h.values, List.reverse_append]
    simp [get?, eq_comm]

/-- Each key comes once. -/
theorem nodup (h : Merges written entries) : (entries.map (·.1)).Nodup := by
  rw [h.keys]
  generalize written.map (·.1) = keys
  induction keys using List.reverseRecOn with
  | nil => exact List.nodup_nil
  | append_singleton keys key ih =>
    rw [eraseDups_concat]
    split
    · exact ih
    next hnew => exact List.concat_eq_append ▸ ih.concat (List.mem_eraseDups.not.mpr hnew)

/-- Nothing is in the table that was not written. -/
theorem mem_written (h : Merges written entries) {e : String × α} (he : e ∈ entries) : e ∈ written := by
  have hfound := (h.values e.1).symm.trans (get?_of_mem h.nodup he)
  exact List.mem_reverse.mp (mem_of_get? hfound)

/-- What the entries are brought together to is determined. -/
theorem unique {entries' : List (String × α)} (h : Merges written entries) (h' : Merges written entries') :
    entries = entries' :=
  eq_of_keys_of_get? h.nodup (h.keys.trans h'.keys.symm) fun key => (h.values key).trans (h'.values key).symm

end Merges

end Assoc

end Gatehouse

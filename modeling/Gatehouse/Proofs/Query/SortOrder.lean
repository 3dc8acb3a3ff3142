import Gatehouse.Query.Sort

/-!
# The order of sorted documents

Two values compare first by kind, then by what tells values of that kind apart: the number as a double,
the text, the truth value. Arrays have nothing that tells them apart, nor have objects
(`Json.compareForSort_eq`). So the comparison is lexicographic over four linear orders, a key may turn it
round, and several keys are lexicographic again: comparing documents is a total preorder
(`SortOrder.compareDocs_total_preorder`).
-/

namespace Gatehouse

namespace Json

/-- The quanta of a number as a double; zero for a value of another kind. -/
def sortNumber : Option Json → Int
  | some (.number n) => n.toDouble.key
  | _ => 0

/-- The text of a string; empty for a value of another kind. -/
def sortText : Option Json → String
  | some (.string s) => s
  | _ => ""

/-- A truth value; false for a value of another kind. -/
def sortFlag : Option Json → Bool
  | some (.bool b) => b
  | _ => false

/-- Values compare by kind, then by number, text and truth value. -/
theorem compareForSort_eq : compareForSort =
    compareLex (compareOn kindRank)
      (compareLex (compareOn sortNumber) (compareLex (compareOn sortText) (compareOn sortFlag))) := by
  funext a b
  -- the kinds decide unless they agree, and then at most one of the three others is not constant
  rcases a with _ | (_ | _ | _ | _ | _ | _) <;> rcases b with _ | (_ | _ | _ | _ | _ | _) <;> try rfl
  case some.number.some.number x y =>
    simp [compareForSort, compareLex, compareOn, sortNumber, sortText, sortFlag, Number.cmp, Double.cmp]
  case some.string.some.string s t =>
    simp [compareForSort, compareLex, compareOn, sortNumber, sortText, sortFlag]

instance : Std.TransCmp compareForSort := by
  rw [compareForSort_eq]
  infer_instance

end Json

namespace SortKey

/-- Downwards, documents compare as they do upwards in exchanged places. -/
theorem compareDocs_descending (path : String) :
    compareDocs ⟨path, .descending⟩ = fun a b => compareDocs ⟨path, .ascending⟩ b a := by
  funext a b
  exact Std.OrientedCmp.eq_swap.symm

instance (k : SortKey) : Std.TransCmp k.compareDocs := by
  obtain ⟨path, direction⟩ := k
  have hup : Std.TransCmp (compareDocs ⟨path, .ascending⟩) :=
    { eq_swap {a b} :=
        @Std.OrientedCmp.eq_swap _ Json.compareForSort _ (a.lookup path) (b.lookup path)
      isLE_trans {a b c} :=
        @Std.TransCmp.isLE_trans _ Json.compareForSort _ (a.lookup path) (b.lookup path) (c.lookup path) }
  cases direction with
  | ascending => exact hup
  | descending =>
    rw [compareDocs_descending]
    exact Std.TransCmp.opposite

end SortKey

namespace SortOrder

/-- The keys after the first decide where the first does not. -/
theorem compareDocs_cons (k : SortKey) (ks : SortOrder) :
    compareDocs (k :: ks) = compareLex k.compareDocs (compareDocs ks) := rfl

instance (keys : SortOrder) : Std.TransCmp (compareDocs keys) := by
  induction keys with
  | nil => exact { eq_swap := rfl, isLE_trans := fun _ _ => rfl }
  | cons k ks ih =>
    rw [compareDocs_cons]
    infer_instance

/-- **Comparing documents by any sort keys is a total preorder**: a document is level with itself, documents
in exchanged places compare the other way round, and what is not after is not after in the long run. -/
theorem compareDocs_total_preorder (keys : SortOrder) :
    (∀ a, compareDocs keys a a = .eq) ∧
    (∀ a b, compareDocs keys b a = (compareDocs keys a b).swap) ∧
    ∀ a b c, compareDocs keys a b ≠ .gt → compareDocs keys b c ≠ .gt → compareDocs keys a c ≠ .gt := by
  refine ⟨fun a => Std.ReflCmp.compare_self, fun a b => Std.OrientedCmp.eq_swap, fun a b c hab hbc => ?_⟩
  have hab' := Ordering.isLE_iff_ne_gt.mpr hab
  have hbc' := Ordering.isLE_iff_ne_gt.mpr hbc
  exact Ordering.isLE_iff_ne_gt.mp (Std.TransCmp.isLE_trans hab' hbc')

end SortOrder

end Gatehouse

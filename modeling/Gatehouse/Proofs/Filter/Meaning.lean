import Gatehouse.Filter.Match

/-!
# What a filter means

A filter is given its meaning on a document directly, without a predicate in between: each operator says
what it asks of the **elements** at a path (`Filter.Operator.Holds`), an operator list asks for all of its
operators, and the groups quantify over their base filters. A compiled filter is satisfied by exactly the
documents on which the filter holds (`Filter.satisfied_iff_meaning`).

The lemmas on `Predicate.holds` in the first part read the evaluator as `all` and `any` over lists, so that
no later proof opens it.
-/

namespace Gatehouse

/-! ### The evaluator over lists -/

namespace Predicate

variable (d : Json)

@[simp] theorem holds_all : all.holds d = true := by rw [holds]

@[simp] theorem holds_field (path : String) (c : Constraint) :
    (field path c).holds d = c.holds (d.lookup path) := by rw [holds]

theorem allHold_eq (ps : List Predicate) : allHold d ps = ps.all (holds d) := by
  induction ps with
  | nil => rw [allHold, List.all_nil]
  | cons p ps ih => rw [allHold, ih, List.all_cons]

theorem anyHolds_eq (ps : List Predicate) : anyHolds d ps = ps.any (holds d) := by
  induction ps with
  | nil => rw [anyHolds, List.any_nil]
  | cons p ps ih => rw [anyHolds, ih, List.any_cons]

@[simp] theorem holds_and (ps : List Predicate) : (and ps).holds d = ps.all (holds d) := by
  rw [holds, allHold_eq]

@[simp] theorem holds_or (ps : List Predicate) : (or ps).holds d = ps.any (holds d) := by
  rw [holds, anyHolds_eq]

@[simp] theorem holds_nor (ps : List Predicate) : (nor ps).holds d = !ps.any (holds d) := by
  rw [holds, anyHolds_eq]

/-- A conjunction of none or one is no `and`, but holds like one. -/
@[simp] theorem holds_conjunction (ps : List Predicate) :
    (conjunction ps).holds d = ps.all (holds d) := by
  match ps with
  | [] => rw [conjunction, holds_all, List.all_nil]
  | [p] => rw [conjunction, List.all_cons, List.all_nil, Bool.and_true]
  | p :: q :: ps => exact holds_and d (p :: q :: ps)

end Predicate

/-! ### The elements at a path -/

/-- What a constraint looks at: the elements of an array, any other value itself, of a missing value
nothing. -/
def Json.elements : Option Json → List Json
  | some (.array items) => items
  | some v => [v]
  | none => []

theorem Json.anyElement_eq (p : Json → Bool) (v : Option Json) :
    anyElement p v = (elements v).any p := by
  rcases v with _ | (_ | _ | _ | _ | _ | _) <;> simp [anyElement, elements]

namespace Scalar

/-- An element at a place equals an operand. A missing value and null also equal null. -/
def IsAt (operand : Scalar) (v : Option Json) : Prop :=
  (operand = .null ∧ (v = none ∨ v = some .null)) ∨
    ∃ x ∈ Json.elements v, operand.compareWith x = some .eq

theorem equals_iff (operand : Scalar) (v : Option Json) : operand.equals v = true ↔ operand.IsAt v := by
  unfold equals IsAt
  split
  case h_1 => simp
  case h_2 => simp
  case h_3 hmissing hnull =>
    have hnot : ¬ (operand = .null ∧ (v = none ∨ v = some .null)) := by
      rintro ⟨hoperand, rfl | rfl⟩
      · exact hmissing rfl hoperand
      · exact hnull rfl hoperand
    simp [Json.anyElement_eq, hnot]

theorem ordered_iff (operand : Scalar) (accept : Ordering → Bool) (v : Option Json) :
    operand.ordered accept v = true ↔
      ∃ x ∈ Json.elements v, ∃ o, operand.compareWith x = some o ∧ accept o = true := by
  simp [ordered, Json.anyElement_eq, Option.any_eq_true]

end Scalar

namespace Filter

/-! ### The meaning of filters -/

/-- What an operator asks of the value at a path, if there is one. -/
def Operator.Holds (v : Option Json) : Operator → Prop
  | .oneOf xs => ∃ x ∈ xs, x.IsAt v
  | .noneOf xs => ∀ x ∈ xs, ¬ x.IsAt v
  | .ne x => ¬ x.IsAt v
  | .gt x => ∃ y ∈ Json.elements v, x.compareWith y = some .gt
  | .gte x => ∃ y ∈ Json.elements v, x.compareWith y = some .gt ∨ x.compareWith y = some .eq
  | .lt x => ∃ y ∈ Json.elements v, x.compareWith y = some .lt
  | .lte x => ∃ y ∈ Json.elements v, x.compareWith y = some .lt ∨ x.compareWith y = some .eq
  | .like l => ∃ s, .string s ∈ Json.elements v ∧ l.isIn s = true

/-- What a condition asks of the value at a path: equality with a literal, or all of its operators. -/
def Condition.Holds (v : Option Json) : Condition → Prop
  | .equals x => x.IsAt v
  | .operators ops => ∀ op ∈ ops, op.Holds v

/-- A condition on a field holds on a document. -/
def FieldFilter.Holds (d : Json) (f : FieldFilter) : Prop := f.condition.Holds (d.lookup f.path)

/-- All conditions of a base filter hold on a document. -/
def BaseFilter.Holds (d : Json) (fields : BaseFilter) : Prop := ∀ f ∈ fields, f.Holds d

/-! ### Compiled filters -/

theorem Operator.holds_constraint_iff (op : Operator) (v : Option Json) :
    op.constraint.holds v = true ↔ op.Holds v := by
  cases op with
  | oneOf xs => simp [constraint, Constraint.holds, Holds, Scalar.equals_iff]
  | noneOf xs =>
    simp only [constraint, Constraint.holds, Holds, ← Scalar.equals_iff]
    simp
  | ne x =>
    simp only [constraint, Constraint.holds, Holds, ← Scalar.equals_iff]
    simp
  | gt x => simp [constraint, Constraint.holds, Holds, Scalar.ordered_iff]
  | gte x =>
    simp only [constraint, Constraint.holds, Holds, Scalar.ordered_iff]
    refine exists_congr fun y => and_congr_right fun _ => ?_
    rcases x.compareWith y with _ | (_ | _ | _) <;> simp
  | lt x => simp [constraint, Constraint.holds, Holds, Scalar.ordered_iff]
  | lte x =>
    simp only [constraint, Constraint.holds, Holds, Scalar.ordered_iff]
    refine exists_congr fun y => and_congr_right fun _ => ?_
    rcases x.compareWith y with _ | (_ | _ | _) <;> simp
  | like l =>
    simp only [constraint, Constraint.holds, Holds, Json.anyElement_eq, List.any_eq_true]
    constructor
    · rintro ⟨y, hy, hl⟩
      cases y with
      | string s => exact ⟨s, hy, hl⟩
      | _ => exact absurd hl (by simp [Like.holdsFor])
    · rintro ⟨s, hs, hl⟩
      exact ⟨.string s, hs, hl⟩

theorem Condition.all_constraints_iff (c : Condition) (v : Option Json) :
    c.constraints.all (·.holds v) = true ↔ c.Holds v := by
  cases c with
  | equals x => simp [constraints, Holds, Constraint.holds, Scalar.equals_iff]
  | operators ops => simp [constraints, Holds, Operator.holds_constraint_iff]

namespace BaseFilter

theorem all_conjuncts_iff (fields : BaseFilter) (d : Json) :
    (conjuncts fields).all (·.holds d) = true ↔ Holds d fields := by
  simp only [conjuncts, Holds, FieldFilter.Holds, ← Condition.all_constraints_iff]
  simp [List.all_flatMap]

theorem holds_compile_iff (fields : BaseFilter) (d : Json) :
    (compile fields).holds d = true ↔ Holds d fields := by
  rw [compile, Predicate.holds_conjunction, all_conjuncts_iff]

/-- The predicate of a group `or`, if there is one. -/
theorem all_anyGroup_iff (group : Option (List BaseFilter)) (d : Json) :
    (group.map fun bases => Predicate.or (bases.map compile)).toList.all (·.holds d) = true ↔
      ∀ bases, group = some bases → ∃ fields ∈ bases, Holds d fields := by
  cases group with
  | none => simp
  | some bases =>
    have hmember (fields : BaseFilter) := holds_compile_iff fields d
    simp [hmember]

/-- The predicate of a group `nor`, if there is one. -/
theorem all_norGroup_iff (group : Option (List BaseFilter)) (d : Json) :
    (group.map fun bases => Predicate.nor (bases.map compile)).toList.all (·.holds d) = true ↔
      ∀ bases, group = some bases → ¬ ∃ fields ∈ bases, Holds d fields := by
  cases group with
  | none => simp
  | some bases =>
    have hmember (fields : BaseFilter) : (compile fields).holds d = false ↔ ¬ Holds d fields := by
      rw [← holds_compile_iff, Bool.not_eq_true]
    simp [hmember]

end BaseFilter

/-- The direct meaning of a filter. -/
theorem Expression.holds_compile_iff (e : Expression) (d : Json) :
    e.compile.holds d = true ↔
      BaseFilter.Holds d e.fields ∧
      (∀ bases, e.any = some bases → ∃ fields ∈ bases, BaseFilter.Holds d fields) ∧
      (∀ bases, e.nor = some bases → ¬ ∃ fields ∈ bases, BaseFilter.Holds d fields) := by
  rw [compile, Predicate.holds_conjunction, List.all_append, List.all_append, Bool.and_eq_true,
    Bool.and_eq_true, BaseFilter.all_conjuncts_iff, BaseFilter.all_anyGroup_iff,
    BaseFilter.all_norGroup_iff, and_assoc]

/-- **A document satisfies a compiled filter exactly if the filter holds on it**: every condition on a
field; if there is a group `or`, all conditions of at least one of its base filters; if there is a group
`nor`, of none of its base filters. So a filter that asks nothing always holds, as does a base filter that
asks nothing, and a group `or` without members never does. -/
theorem satisfied_iff_meaning (e : Expression) (d : Json) :
    (e.compile.holds d = true ↔
      (∀ f ∈ e.fields, f.Holds d) ∧
      (∀ bases, e.any = some bases → ∃ fields ∈ bases, ∀ f ∈ fields, f.Holds d) ∧
      (∀ bases, e.nor = some bases → ¬ ∃ fields ∈ bases, ∀ f ∈ fields, f.Holds d)) ∧
    (Expression.compile {}).holds d = true ∧
    (BaseFilter.compile []).holds d = true ∧
    (e.any = some [] → e.compile.holds d = false) := by
  refine ⟨e.holds_compile_iff d, ?_, ?_, fun hany => ?_⟩
  · exact (Expression.holds_compile_iff {} d).mpr ⟨by simp [BaseFilter.Holds], by simp, by simp⟩
  · exact (BaseFilter.holds_compile_iff [] d).mpr (by simp [BaseFilter.Holds])
  · rw [Bool.eq_false_iff]
    intro hholds
    obtain ⟨-, hmember, -⟩ := (e.holds_compile_iff d).mp hholds
    obtain ⟨fields, hfields, -⟩ := hmember [] hany
    exact List.not_mem_nil hfields

end Filter

end Gatehouse

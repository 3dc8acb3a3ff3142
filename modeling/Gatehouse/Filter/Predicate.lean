import Gatehouse.Filter.Expression

/-!
# Predicates

A predicate is a tree over **constraints**, each of which compares one field with one operand.
`Filter.Expression.compile` turns a filter into a predicate: the constraints of its fields in order,
then the group `or`, then the group `nor`. A single conjunct stands alone, and no conjunct at all is
the predicate that every document satisfies.
-/

namespace Gatehouse

/-- What is asked of the value of one field. -/
inductive Constraint where
  | eq (value : Scalar)
  | ne (value : Scalar)
  | gt (value : Scalar)
  | gte (value : Scalar)
  | lt (value : Scalar)
  | lte (value : Scalar)
  | oneOf (values : List Scalar)
  | noneOf (values : List Scalar)
  | like (pattern : Like)
  deriving DecidableEq, Repr

/-- A predicate on documents. -/
inductive Predicate where
  | all
  | field (path : String) (constraint : Constraint)
  | and (conjuncts : List Predicate)
  | or (alternatives : List Predicate)
  /-- None of the alternatives holds. -/
  | nor (alternatives : List Predicate)
  deriving Repr, Inhabited

namespace Filter

/-- The constraint of an operator. -/
def Operator.constraint : Operator → Constraint
  | .oneOf vs => .oneOf vs
  | .noneOf vs => .noneOf vs
  | .ne v => .ne v
  | .gt v => .gt v
  | .gte v => .gte v
  | .lt v => .lt v
  | .lte v => .lte v
  | .like p => .like p

/-- The constraints of a condition. -/
def Condition.constraints : Condition → List Constraint
  | .equals v => [.eq v]
  | .operators ops => ops.map Operator.constraint

/-- One predicate for each constraint of each field. -/
def BaseFilter.conjuncts (fields : BaseFilter) : List Predicate :=
  fields.flatMap fun f => f.condition.constraints.map (Predicate.field f.path)

end Filter

/-- The conjunction of some predicates. -/
def Predicate.conjunction : List Predicate → Predicate
  | [] => .all
  | [p] => p
  | ps => .and ps

namespace Filter

/-- The predicate of a base filter. -/
def BaseFilter.compile (fields : BaseFilter) : Predicate := .conjunction (conjuncts fields)

/-- The predicate of a filter. -/
def Expression.compile (e : Expression) : Predicate :=
  .conjunction <| BaseFilter.conjuncts e.fields
    ++ (e.any.map fun groups => Predicate.or (groups.map BaseFilter.compile)).toList
    ++ (e.nor.map fun groups => Predicate.nor (groups.map BaseFilter.compile)).toList

end Filter

end Gatehouse

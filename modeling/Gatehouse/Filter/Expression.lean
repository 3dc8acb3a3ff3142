import Gatehouse.Filter.Scalar
import Gatehouse.Pattern.Reader

/-!
# Filters

A filter sets conditions on fields, and may add two groups of **base filters**, which hold conditions
on fields only: of the group `or` at least one member holds, of the group `nor` none.
-/

namespace Gatehouse

/-- The operand of `like`: a text that denotes a pattern. -/
structure Like where
  source : String
  pattern : Pattern
  compiled : Pattern.compile? source = some pattern
  deriving Repr

/-- Patterns are told apart by their text. -/
instance : DecidableEq Like := fun a b =>
  if h : a.source = b.source then
    .isTrue <| by
      obtain ⟨s, p, hp⟩ := a
      obtain ⟨t, q, hq⟩ := b
      obtain rfl : s = t := h
      obtain rfl : p = q := Option.some.inj (hp.symm.trans hq)
      rfl
  else .isFalse fun e => h (e ▸ rfl)

/-- The `like` operand with this text, if it denotes a pattern. -/
def Like.ofText? (text : String) : Option Like :=
  match h : Pattern.compile? text with
  | some p => some ⟨text, p, h⟩
  | none => none

/-- The text of a `like` operand denotes it. -/
theorem Like.ofText?_source (l : Like) : Like.ofText? l.source = some l := by
  obtain ⟨source, pattern, hcompiled⟩ := l
  rw [ofText?]
  split
  next found hfound =>
    obtain rfl : found = pattern := Option.some.inj (hfound.symm.trans hcompiled)
    rfl
  next hnone => exact absurd (hnone.symm.trans hcompiled) (by simp)

/-- The pattern describes some piece of a text. -/
def Like.isIn (l : Like) (text : String) : Bool := l.pattern.isIn text

namespace Filter

/-- One entry of an operator map. -/
inductive Operator where
  | oneOf (values : List Scalar)
  | noneOf (values : List Scalar)
  | ne (value : Scalar)
  | gt (value : Scalar)
  | gte (value : Scalar)
  | lt (value : Scalar)
  | lte (value : Scalar)
  | like (pattern : Like)
  deriving DecidableEq, Repr

/-- What is asked of a field: equality with a literal, or all of some operators. -/
inductive Condition where
  | equals (value : Scalar)
  | operators (ops : List Operator)
  deriving DecidableEq, Repr

/-- A condition on the field at a dotted path. -/
structure FieldFilter where
  path : String
  condition : Condition
  deriving DecidableEq, Repr

/-- Conditions on fields that must all hold. -/
abbrev BaseFilter := List FieldFilter

/-- A filter. -/
structure Expression where
  fields : BaseFilter := []
  any : Option (List BaseFilter) := none
  nor : Option (List BaseFilter) := none
  deriving DecidableEq, Repr

/-- Nothing is asked. -/
def Expression.isEmpty (e : Expression) : Bool :=
  e.fields.isEmpty && e.any.isNone && e.nor.isNone

end Filter

end Gatehouse

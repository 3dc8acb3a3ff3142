import Gatehouse.Filter.Predicate

/-!
# Which documents satisfy a predicate

A constraint looks at the value at a dotted path. A missing field counts as null for equality. Where
the value is an array, equality, order and patterns ask for **some element**; the negated constraints
ask that none has the property.
-/

namespace Gatehouse

/-- Some element of an array, or the value itself, has a property. A missing value has none. -/
def Json.anyElement (p : Json → Bool) : Option Json → Bool
  | some (.array items) => items.any p
  | some v => p v
  | none => false

/-- The value equals an operand. Nothing and null are equal to null. -/
def Scalar.equals (operand : Scalar) (v : Option Json) : Bool :=
  match v, operand with
  | none, .null => true
  | some .null, .null => true
  | v, operand => Json.anyElement (fun x => operand.compareWith x = some .eq) v

/-- The value compares to an operand in an accepted way. -/
def Scalar.ordered (operand : Scalar) (accept : Ordering → Bool) (v : Option Json) : Bool :=
  Json.anyElement (fun x => (operand.compareWith x).any accept) v

/-- A string in which a pattern occurs. -/
def Like.holdsFor (l : Like) : Json → Bool
  | .string s => l.isIn s
  | _ => false

/-- The value at a path, if there is one, satisfies a constraint. -/
def Constraint.holds (v : Option Json) : Constraint → Bool
  | .eq x => x.equals v
  | .ne x => !x.equals v
  | .oneOf xs => xs.any fun x => x.equals v
  | .noneOf xs => !xs.any fun x => x.equals v
  | .gt x => x.ordered (· == .gt) v
  | .gte x => x.ordered (· != .lt) v
  | .lt x => x.ordered (· == .lt) v
  | .lte x => x.ordered (· != .gt) v
  | .like l => Json.anyElement l.holdsFor v

namespace Predicate

mutual

/-- A document satisfies a predicate. -/
def holds (doc : Json) : Predicate → Bool
  | .all => true
  | .field path c => c.holds (doc.lookup path)
  | .and ps => allHold doc ps
  | .or ps => anyHolds doc ps
  | .nor ps => !anyHolds doc ps

/-- A document satisfies all of some predicates. -/
def allHold (doc : Json) : List Predicate → Bool
  | [] => true
  | p :: ps => p.holds doc && allHold doc ps

/-- A document satisfies one of some predicates. -/
def anyHolds (doc : Json) : List Predicate → Bool
  | [] => false
  | p :: ps => p.holds doc || anyHolds doc ps

end

end Predicate

end Gatehouse

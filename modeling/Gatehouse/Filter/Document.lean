import Gatehouse.Filter.Predicate

/-!
# Predicates as documents of the store

`Predicate.toDocument` writes a predicate in the query language of a document store. Constraints on one
path share an operator object as long as their operators differ; a constraint that cannot join what
its path already holds goes to the list under `$and`, as do groups whose key is taken.
-/

namespace Gatehouse

namespace Constraint

/-- The store's name of a constraint. -/
def operatorName : Constraint → String
  | .eq _ => "$eq"
  | .ne _ => "$ne"
  | .gt _ => "$gt"
  | .gte _ => "$gte"
  | .lt _ => "$lt"
  | .lte _ => "$lte"
  | .oneOf _ => "$in"
  | .noneOf _ => "$nin"
  | .like _ => "$regex"

/-- The operand of a constraint in the store's language. -/
def operand : Constraint → Json
  | .eq v | .ne v | .gt v | .gte v | .lt v | .lte v => v.toJson
  | .oneOf vs | .noneOf vs => .array (vs.map Scalar.toJson)
  | .like l => .string l.source

/-- Write a constraint into an operator object. A pattern brings its option for letter case. -/
def addTo (c : Constraint) (ops : Json.Entries) : Json.Entries :=
  let ops := match c with
    | .like _ => Assoc.put "$options" (.string "i") ops
    | _ => ops
  Assoc.put c.operatorName c.operand ops

end Constraint

namespace Predicate

/-- A document that is being written: its entries, and the members of its `$and`, latest first. -/
structure Draft where
  entries : Json.Entries := []
  spilled : List Json := []

namespace Draft

/-- Put a member under `$and`. -/
def spill (d : Draft) (member : Json) : Draft := { d with spilled := member :: d.spilled }

/-- An operator object can take one more constraint: it is no wrapped instant, and has no operator of
that name. -/
def accepts (ops : Json.Entries) (c : Constraint) : Bool :=
  !Assoc.hasKey c.operatorName ops && !Assoc.hasKey Scalar.dateKey ops

/-- Add a constraint on a path. -/
def addField (d : Draft) (path : String) (c : Constraint) : Draft :=
  match c with
  | .eq v =>
    if Assoc.hasKey path d.entries then d.spill (.object [(path, v.toJson)])
    else { d with entries := Assoc.put path v.toJson d.entries }
  | c =>
    match Assoc.get? path d.entries with
    | none => { d with entries := Assoc.put path (.object (c.addTo [])) d.entries }
    | some (.object ops) =>
      if accepts ops c then { d with entries := Assoc.put path (.object (c.addTo ops)) d.entries }
      else d.spill (.object [(path, .object (c.addTo []))])
    | some _ => d.spill (.object [(path, .object (c.addTo []))])

/-- Add a group under its key, or under `$and` if the key is taken. -/
def addGroup (d : Draft) (key : String) (members : List Json) : Draft :=
  if Assoc.hasKey key d.entries then d.spill (.object [(key, .array members)])
  else { d with entries := Assoc.put key (.array members) d.entries }

/-- The finished document. -/
def toJson (d : Draft) : Json :=
  if d.spilled.isEmpty then .object d.entries
  else .object (Assoc.put "$and" (.array d.spilled.reverse) d.entries)

end Draft

mutual

/-- The document of a predicate. -/
def toDocument : Predicate → Json
  | .all => .object []
  | .field path c => (Draft.addField {} path c).toJson
  | .and ps => (drafted {} ps).toJson
  | .or ps => .object [("$or", .array (documents ps))]
  | .nor ps => .object [("$nor", .array (documents ps))]

/-- The documents of some predicates. -/
def documents : List Predicate → List Json
  | [] => []
  | p :: ps => toDocument p :: documents ps

/-- Add conjuncts to a draft, one after the other. -/
def drafted (d : Draft) : List Predicate → Draft
  | [] => d
  | p :: ps =>
    let next := match p with
      | .all => d
      | .field path c => d.addField path c
      | .or qs => d.addGroup "$or" (documents qs)
      | .nor qs => d.addGroup "$nor" (documents qs)
      | .and qs => d.spill (drafted {} qs).toJson
    drafted next ps

end

end Predicate

end Gatehouse

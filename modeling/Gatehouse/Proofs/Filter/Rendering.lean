import Gatehouse.Proofs.Filter.Clauses
import Gatehouse.Proofs.Filter.Meaning
import Gatehouse.Proofs.Instant.RoundTrip

/-!
# What the document of a predicate means

The clauses of a query document are given their meaning on a document of the store (`Json.meaning?`): the
document has one only if every clause can be read. Read so, the document of a predicate means the predicate
(`Predicate.meaning?_toDocument`), whatever had to be merged, or spilled under `$and`.

Two things do not survive the writing, and are hypotheses: a path that is the key of a group is taken for
one, and an instant is written with three digits of the second and a year of four.
-/

namespace Gatehouse

/-! ### Operands -/

namespace Scalar

/-- The operand that a literal of a query document denotes: a wrapped instant, or a scalar as it stands. -/
def ofLiteral? : Json → Option Scalar
  | .null => some .null
  | .bool b => some (.bool b)
  | .number n => some (.number n)
  | .string s => some (.string s)
  | .object [(key, .string s)] => if key = dateKey then (Instant.parse? s).map .instant else none
  | _ => none

/-- The operands that an array of literals denotes. -/
def ofLiterals? : Json → Option (List Scalar)
  | .array items => items.mapM ofLiteral?
  | _ => none

/-- An operand can be written exactly. Only instants may be cut: they need whole milliseconds and a year of
four digits. Well-formed they are by the way they come about (`Instant.wellFormed_of_parse?`). -/
def IsExact : Scalar → Prop
  | .instant t => t.WellFormed ∧ t.HasWholeMillis ∧ 0 ≤ t.date.year ∧ t.date.year ≤ 9999
  | _ => True

instance : DecidablePred IsExact
  | .instant _ => inferInstanceAs (Decidable (_ ∧ _))
  | .null | .bool _ | .number _ | .string _ => .isTrue trivial

theorem ofLiteral?_toJson {v : Scalar} (h : v.IsExact) : ofLiteral? v.toJson = some v := by
  cases v with
  | instant t =>
    obtain ⟨hformed, hmillis, hfirst, hlast⟩ := h
    rw [toJson, ofLiteral?, if_pos rfl, Instant.parse?_renderMillis hformed hfirst hlast,
      Instant.toMillis_of_hasWholeMillis hmillis, Option.map_some]
  | _ => rfl

theorem ofLiterals?_map_toJson {vs : List Scalar} (h : ∀ v ∈ vs, v.IsExact) :
    ofLiterals? (.array (vs.map toJson)) = some vs := by
  rw [ofLiterals?]
  induction vs with
  | nil => rfl
  | cons v vs ih =>
    rw [List.map_cons, List.mapM_cons, ofLiteral?_toJson (h v List.mem_cons_self),
      ih fun w hw => h w (List.mem_cons_of_mem v hw)]
    rfl

end Scalar

/-! ### Operators -/

namespace Constraint

/-- The constraint that an operator of a query document denotes, with its operand and its options. Patterns
are known only with the option to ignore the case of letters. -/
def ofOperator? (operator : String) (operand : Json) (options : Option Json) : Option Constraint :=
  match operator with
  | "$eq" => (Scalar.ofLiteral? operand).map .eq
  | "$ne" => (Scalar.ofLiteral? operand).map .ne
  | "$gt" => (Scalar.ofLiteral? operand).map .gt
  | "$gte" => (Scalar.ofLiteral? operand).map .gte
  | "$lt" => (Scalar.ofLiteral? operand).map .lt
  | "$lte" => (Scalar.ofLiteral? operand).map .lte
  | "$in" => (Scalar.ofLiterals? operand).map .oneOf
  | "$nin" => (Scalar.ofLiterals? operand).map .noneOf
  | "$regex" =>
    match operand, options with
    | .string text, some (.string "i") => (Like.ofText? text).map .like
    | _, _ => none
  | _ => none

/-- The operands of a constraint. -/
def operands : Constraint → List Scalar
  | .eq v | .ne v | .gt v | .gte v | .lt v | .lte v => [v]
  | .oneOf vs | .noneOf vs => vs
  | .like _ => []

/-- A constraint is read back from what is written of it. -/
theorem ofOperator?_operand {c : Constraint} (h : ∀ v ∈ c.operands, v.IsExact) :
    ofOperator? c.operatorName c.operand c.options = some c := by
  cases c with
  | eq v | ne v | gt v | gte v | lt v | lte v =>
    simp only [operatorName, operand, ofOperator?, Scalar.ofLiteral?_toJson (h v List.mem_cons_self),
      Option.map_some]
  | oneOf vs | noneOf vs =>
    have hvs : ∀ v ∈ vs, v.IsExact := h
    simp only [operatorName, operand, ofOperator?, Scalar.ofLiterals?_map_toJson hvs, Option.map_some]
  | like l => simp only [operatorName, operand, options, ofOperator?, Like.ofText?_source, Option.map_some]

end Constraint

/-! ### The meaning of clauses -/

/-- The keys under which a query document holds groups. No path is read under them. -/
def groupKeys : List String := ["$or", "$nor", "$and"]

namespace Clause

mutual

/-- Whether a clause holds on a document; a clause that cannot be read has no meaning. -/
def value? (d : Json) : Clause → Option Bool
  | .field path operator operand options =>
    if path ∈ groupKeys then none
    else (Constraint.ofOperator? operator operand options).map fun c => c.holds (d.lookup path)
  | .any members => anyHolds? d members
  | .nor members => (anyHolds? d members).map not
  | .malformed _ => none

/-- Whether all clauses hold on a document. -/
def allHold? (d : Json) : List Clause → Option Bool
  | [] => some true
  | c :: cs => (value? d c).bind fun a => (allHold? d cs).map (a && ·)

/-- Whether all clauses of some member hold on a document. -/
def anyHolds? (d : Json) : List (List Clause) → Option Bool
  | [] => some false
  | m :: ms => (allHold? d m).bind fun a => (anyHolds? d ms).map (a || ·)

end

variable {d : Json}

theorem allHold?_append {xs ys : List Clause} {a b : Bool} (hx : allHold? d xs = some a)
    (hy : allHold? d ys = some b) : allHold? d (xs ++ ys) = some (a && b) := by
  induction xs generalizing a with
  | nil =>
    rw [allHold?, Option.some.injEq] at hx
    rw [List.nil_append, hy, ← hx, Bool.true_and]
  | cons c xs ih =>
    rw [allHold?, Option.bind_eq_some_iff] at hx
    obtain ⟨v, hv, hrest⟩ := hx
    obtain ⟨r, hr, rfl⟩ := Option.map_eq_some_iff.mp hrest
    rw [List.cons_append, allHold?, hv, Option.bind_some, ih hr, Option.map_some, Bool.and_assoc]

theorem allHold?_singleton {c : Clause} {a : Bool} (h : value? d c = some a) :
    allHold? d [c] = some a := by
  rw [allHold?, h, allHold?, Option.bind_some, Option.map_some, Bool.and_true]

/-- The order of clauses is without meaning. -/
theorem allHold?_perm {xs ys : List Clause} (h : xs.Perm ys) : allHold? d xs = allHold? d ys := by
  induction h with
  | nil => rfl
  | cons c _ ih => rw [allHold?, allHold?, ih]
  | swap x y zs =>
    simp only [allHold?]
    cases value? d x <;> cases value? d y <;> cases allHold? d zs <;> simp [Bool.and_left_comm]
  | trans _ _ ih₁ ih₂ => rw [ih₁, ih₂]

/-- The clause of a constraint means the constraint. -/
theorem value?_clause {path : String} {c : Constraint} (hpath : path ∉ groupKeys)
    (hexact : ∀ v ∈ c.operands, v.IsExact) :
    value? d (c.clause path) = some (c.holds (d.lookup path)) := by
  rw [Constraint.clause, value?, if_neg hpath, Constraint.ofOperator?_operand hexact, Option.map_some]

end Clause

namespace Predicate

/-! ### What drafts mean -/

/-- A draft can be finished, and will have this meaning on a document. -/
structure Draft.Means (d : Json) (draft : Draft) (b : Bool) : Prop where
  /-- No entry stands where the list of spilled members will be written. -/
  hasKey_and : Assoc.hasKey "$and" draft.entries = false
  allHold?_clauses : Clause.allHold? d draft.clauses = some b

namespace Draft.Means

variable {d : Json} {draft : Draft} {a b : Bool}

theorem empty : Means d {} true where
  hasKey_and := rfl
  allHold?_clauses := rfl

theorem toJson (h : draft.Means d b) : Clause.allHold? d draft.toJson.clauses = some b := by
  rw [clauses_toJson (.inr h.hasKey_and), h.allHold?_clauses]

theorem spill (h : draft.Means d b) {member : Json}
    (hmember : Clause.allHold? d member.clauses = some a) :
    (draft.spill member).Means d (b && a) where
  hasKey_and := h.hasKey_and
  allHold?_clauses := by
    rw [clauses_spill]
    exact Clause.allHold?_append h.allHold?_clauses hmember

theorem addField (h : draft.Means d b) {path : String} {c : Constraint} (hpath : path ∉ groupKeys)
    (hexact : ∀ v ∈ c.operands, v.IsExact) :
    (draft.addField path c).Means d (b && c.holds (d.lookup path)) where
  hasKey_and := by
    have hne : "$and" ≠ path := by
      rintro rfl
      exact hpath (by decide)
    rw [hasKey_addField c hne, h.hasKey_and]
  allHold?_clauses := by
    rw [Clause.allHold?_perm (clauses_addField draft path c)]
    exact Clause.allHold?_append h.allHold?_clauses
      (Clause.allHold?_singleton (Clause.value?_clause hpath hexact))

theorem addGroup (h : draft.Means d b) {key : String} {members : List Json}
    {clause : List (List Clause) → Clause} (hkey : "$and" ≠ key)
    (hclause : ∀ items, Json.entryClauses key (.array items) = [clause (Json.memberClauses items)])
    (hvalue : Clause.value? d (clause (Json.memberClauses members)) = some a) :
    (draft.addGroup key members).Means d (b && a) where
  hasKey_and := by rw [hasKey_addGroup members hkey, h.hasKey_and]
  allHold?_clauses := by
    rw [Clause.allHold?_perm (clauses_addGroup hclause members)]
    exact Clause.allHold?_append h.allHold?_clauses (Clause.allHold?_singleton hvalue)

theorem addOr (h : draft.Means d b) {members : List Json}
    (hmembers : Clause.anyHolds? d (Json.memberClauses members) = some a) :
    (draft.addGroup "$or" members).Means d (b && a) :=
  h.addGroup (by decide) Json.entryClauses_or (by rw [Clause.value?, hmembers])

theorem addNor (h : draft.Means d b) {members : List Json}
    (hmembers : Clause.anyHolds? d (Json.memberClauses members) = some a) :
    (draft.addGroup "$nor" members).Means d (b && !a) :=
  h.addGroup (by decide) Json.entryClauses_nor (by rw [Clause.value?, hmembers, Option.map_some])

end Draft.Means

/-! ### What documents of predicates mean -/

mutual

/-- The constraints of a predicate with their paths. -/
def leaves : Predicate → List (String × Constraint)
  | .all => []
  | .field path c => [(path, c)]
  | .and ps | .or ps | .nor ps => leavesOfEach ps

/-- The constraints of some predicates. -/
def leavesOfEach : List Predicate → List (String × Constraint)
  | [] => []
  | p :: ps => leaves p ++ leavesOfEach ps

end

/-- A constraint on a path can be written without loss. -/
def IsExact (leaf : String × Constraint) : Prop :=
  leaf.1 ∉ groupKeys ∧ ∀ v ∈ leaf.2.operands, v.IsExact

instance : DecidablePred IsExact := fun _ => inferInstanceAs (Decidable (_ ∧ _))

-- The recursion follows the tree. Between two conjuncts it carries `Draft.Means` for whatever was drafted
-- before, so no case has to know what the earlier ones merged or spilled.

mutual

/-- The clauses of the document of a predicate. -/
theorem allHold?_toDocument (d : Json) (p : Predicate) (h : ∀ leaf ∈ p.leaves, IsExact leaf) :
    Clause.allHold? d p.toDocument.clauses = some (p.holds d) := by
  match p with
  | .all =>
    rw [toDocument, holds]
    rfl
  | .field path c =>
    obtain ⟨hpath, hexact⟩ := h (path, c) (by rw [leaves]; exact List.mem_singleton_self _)
    rw [toDocument, holds, (Draft.Means.empty.addField hpath hexact).toJson, Bool.true_and]
  | .and ps =>
    rw [leaves] at h
    rw [toDocument, holds, (means_drafted d ps Draft.Means.empty h).toJson, Bool.true_and]
  | .or ps =>
    rw [leaves] at h
    have hdocument := Draft.Means.empty.addOr (anyHolds?_documents d ps h)
    rw [toDocument, holds]
    exact hdocument.toJson
  | .nor ps =>
    rw [leaves] at h
    have hdocument := Draft.Means.empty.addNor (anyHolds?_documents d ps h)
    rw [toDocument, holds]
    exact hdocument.toJson

/-- The documents of the members of a group. -/
theorem anyHolds?_documents (d : Json) (ps : List Predicate) (h : ∀ leaf ∈ leavesOfEach ps, IsExact leaf) :
    Clause.anyHolds? d (Json.memberClauses (documents ps)) = some (anyHolds d ps) := by
  match ps with
  | [] =>
    rw [documents, anyHolds]
    rfl
  | p :: ps =>
    rw [leavesOfEach] at h
    have hhead := allHold?_toDocument d p fun leaf hleaf => h leaf (List.mem_append_left _ hleaf)
    have htail := anyHolds?_documents d ps fun leaf hleaf => h leaf (List.mem_append_right _ hleaf)
    rw [documents, Json.memberClauses, Clause.anyHolds?, hhead, htail, anyHolds, Option.bind_some,
      Option.map_some]

/-- One conjunct more. -/
theorem means_add (d : Json) (p : Predicate) {draft : Draft} {b : Bool} (hd : draft.Means d b)
    (h : ∀ leaf ∈ p.leaves, IsExact leaf) : (draft.add p).Means d (b && p.holds d) := by
  match p with
  | .all =>
    rw [holds, Bool.and_true]
    exact hd
  | .field path c =>
    obtain ⟨hpath, hexact⟩ := h (path, c) (by rw [leaves]; exact List.mem_singleton_self _)
    rw [holds]
    exact hd.addField hpath hexact
  | .or qs =>
    rw [leaves] at h
    rw [holds]
    exact hd.addOr (anyHolds?_documents d qs h)
  | .nor qs =>
    rw [leaves] at h
    rw [holds]
    exact hd.addNor (anyHolds?_documents d qs h)
  | .and qs =>
    rw [leaves] at h
    rw [holds, ← Bool.true_and (allHold d qs)]
    exact hd.spill (means_drafted d qs Draft.Means.empty h).toJson

/-- Conjuncts one after the other. -/
theorem means_drafted (d : Json) (ps : List Predicate) {draft : Draft} {b : Bool} (hd : draft.Means d b)
    (h : ∀ leaf ∈ leavesOfEach ps, IsExact leaf) : (drafted draft ps).Means d (b && allHold d ps) := by
  match ps with
  | [] =>
    rw [drafted_nil, allHold, Bool.and_true]
    exact hd
  | p :: ps =>
    rw [leavesOfEach] at h
    have hadd := means_add d p hd fun leaf hleaf => h leaf (List.mem_append_left _ hleaf)
    rw [drafted_cons, allHold, ← Bool.and_assoc]
    exact means_drafted d ps hadd fun leaf hleaf => h leaf (List.mem_append_right _ hleaf)

end

end Predicate

end Gatehouse

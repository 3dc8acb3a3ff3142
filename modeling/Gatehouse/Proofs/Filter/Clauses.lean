import Gatehouse.Filter.Document
import Gatehouse.Filter.Match
import Gatehouse.Proofs.Assoc

/-!
# Reading documents of the store

A query document is read as a list of **clauses**, all of which must hold (`Json.clauses`). An array under
`$or` or `$nor` is a group, and the members of an array under `$and` add their clauses to those of the
document. Anything else stands under a path: an object there is a map of operators, unless it wraps an
instant, and every other value is a literal that the field must equal. `$options` is no operator of its
own, it goes with `$regex`.

The clauses of a document are what it says, not yet what that means: `Clause.value?` evaluates a clause on
a document, with nothing as the value of a clause that has no meaning.
-/

namespace Gatehouse

/-- What a query document asks. -/
inductive Clause where
  /-- The value at a path satisfies an operator with its operand, and its options if it is a pattern. -/
  | field (path operator : String) (operand : Json) (options : Option Json)
  /-- All clauses of some member hold. -/
  | any (members : List (List Clause))
  /-- Of no member all clauses hold. -/
  | nor (members : List (List Clause))
  /-- A value where a query document should stand. -/
  | malformed (v : Json)

namespace Json

/-- The options beside an operator: those of a pattern. -/
def optionsOf (operator : String) (ops : Entries) : Option Json :=
  if operator = "$regex" then Assoc.get? "$options" ops else none

/-- The clauses of a map of operators under a path. -/
def operatorClauses (path : String) (ops : Entries) : List Clause :=
  (ops.filter fun e => e.1 ≠ "$options").map fun e => .field path e.1 e.2 (optionsOf e.1 ops)

/-- The clauses of what stands under a path. -/
def fieldClauses (path : String) : Json → List Clause
  | .object ops =>
    if Assoc.hasKey Scalar.dateKey ops then [.field path "$eq" (.object ops) none]
    else operatorClauses path ops
  | v => [.field path "$eq" v none]

mutual

/-- The clauses of a query document. -/
def clauses : Json → List Clause
  | .object entries => entriesClauses entries
  | v => [.malformed v]

/-- The clauses of the entries of a query document. -/
def entriesClauses : List (String × Json) → List Clause
  | [] => []
  | (key, v) :: rest => entryClauses key v ++ entriesClauses rest

/-- The clauses of one entry. -/
def entryClauses (key : String) : Json → List Clause
  | .array items =>
    if key = "$or" then [.any (memberClauses items)]
    else if key = "$nor" then [.nor (memberClauses items)]
    else if key = "$and" then (memberClauses items).flatten
    else fieldClauses key (.array items)
  | v => fieldClauses key v

/-- The clauses of each member of a group. -/
def memberClauses : List Json → List (List Clause)
  | [] => []
  | v :: vs => clauses v :: memberClauses vs

end

/-! ### Entries one after the other -/

theorem clauses_object (entries : Entries) : clauses (.object entries) = entriesClauses entries := by
  rw [clauses]

theorem entriesClauses_append (xs ys : Entries) :
    entriesClauses (xs ++ ys) = entriesClauses xs ++ entriesClauses ys := by
  induction xs with
  | nil => rw [entriesClauses, List.nil_append, List.nil_append]
  | cons e xs ih => rw [List.cons_append, entriesClauses, entriesClauses, ih, List.append_assoc]

theorem entriesClauses_singleton (key : String) (v : Json) :
    entriesClauses [(key, v)] = entryClauses key v := by
  rw [entriesClauses, entriesClauses, List.append_nil]

theorem memberClauses_eq (items : List Json) : memberClauses items = items.map clauses := by
  induction items with
  | nil => rw [memberClauses, List.map_nil]
  | cons v vs ih => rw [memberClauses, ih, List.map_cons]

theorem entryClauses_or (items : List Json) :
    entryClauses "$or" (.array items) = [.any (memberClauses items)] := by
  rw [entryClauses, if_pos rfl]

theorem entryClauses_nor (items : List Json) :
    entryClauses "$nor" (.array items) = [.nor (memberClauses items)] := by
  rw [entryClauses, if_neg (by decide), if_pos rfl]

theorem entryClauses_and (items : List Json) :
    entryClauses "$and" (.array items) = (memberClauses items).flatten := by
  rw [entryClauses, if_neg (by decide), if_neg (by decide), if_pos rfl]

/-- A new entry adds its clauses at the end. -/
theorem entriesClauses_put_new {key : String} {entries : Entries} (v : Json)
    (h : Assoc.hasKey key entries = false) :
    entriesClauses (Assoc.put key v entries) = entriesClauses entries ++ entryClauses key v := by
  rw [Assoc.put_eq_append v h, entriesClauses_append, entriesClauses_singleton]

/-- A changed entry exchanges its clauses, wherever it stands. -/
theorem entriesClauses_put_perm {key : String} {entries : Entries} {v : Json}
    (h : Assoc.get? key entries = some v) (w : Json) :
    (entriesClauses (Assoc.put key w entries) ++ entryClauses key v).Perm
      (entriesClauses entries ++ entryClauses key w) := by
  obtain ⟨before, after, rfl, hput⟩ := Assoc.exists_split_of_get? h
  rw [hput]
  simp only [entriesClauses_append, entriesClauses, List.append_assoc]
  refine List.Perm.append_left _ ?_
  rw [← List.append_assoc]
  exact List.perm_append_comm.trans (List.perm_append_comm.append_left _)

/-! ### Maps of operators -/

/-- A new operator adds its clause at the end. -/
theorem operatorClauses_put_new {path name : String} {ops : Entries} (v : Json)
    (hname : name ≠ "$options") (h : Assoc.hasKey name ops = false) :
    operatorClauses path (Assoc.put name v ops) =
      operatorClauses path ops ++ [.field path name v (optionsOf name ops)] := by
  have hoptions (operator : String) : optionsOf operator (Assoc.put name v ops) = optionsOf operator ops := by
    rw [optionsOf, optionsOf, Assoc.get?_put, if_neg hname.symm]
  simp only [operatorClauses, hoptions]
  rw [Assoc.put_eq_append v h, List.filter_append, List.map_append]
  simp [hname]

/-- Options alone are no clause, and change none where there is no pattern. -/
theorem operatorClauses_put_options {path : String} {ops : Entries} (v : Json)
    (h : Assoc.hasKey "$regex" ops = false) :
    operatorClauses path (Assoc.put "$options" v ops) = operatorClauses path ops := by
  have hregex : ∀ e ∈ ops, e.1 ≠ "$regex" := fun e he heq =>
    Assoc.hasKey_eq_false_iff.mp h (heq ▸ List.mem_map_of_mem he)
  have hput : (Assoc.put "$options" v ops).filter (fun e => e.1 ≠ "$options") =
      ops.filter fun e => e.1 ≠ "$options" := by
    clear h hregex
    induction ops with
    | nil => simp [Assoc.put]
    | cons e ops ih =>
      obtain ⟨k, w⟩ := e
      rw [Assoc.put]
      by_cases hk : k = "$options"
      · simp [hk]
      · rw [if_neg hk, List.filter_cons, List.filter_cons, ih]
  rw [operatorClauses, operatorClauses, hput]
  refine List.map_congr_left fun e he => ?_
  have hne := hregex e (List.mem_filter.mp he).1
  rw [optionsOf, optionsOf, if_neg hne, if_neg hne]

end Json

/-! ### Constraints and predicates -/

namespace Constraint

/-- The options that a constraint is written with: a pattern ignores the case of letters. -/
def options : Constraint → Option Json
  | .like _ => some (.string "i")
  | _ => none

/-- The clause of a constraint on a path. -/
def clause (path : String) (c : Constraint) : Clause := .field path c.operatorName c.operand c.options

theorem operatorName_ne (c : Constraint) :
    c.operatorName ≠ "$options" ∧ c.operatorName ≠ Scalar.dateKey := by
  cases c <;> constructor <;> simp [operatorName, Scalar.dateKey]

/-- A constraint that an operator map accepts adds its clause. -/
theorem operatorClauses_addTo {path : String} {ops : Json.Entries} {c : Constraint}
    (h : Assoc.hasKey c.operatorName ops = false) :
    Json.operatorClauses path (c.addTo ops) = Json.operatorClauses path ops ++ [c.clause path] := by
  have hname := c.operatorName_ne.1
  cases c with
  | like l =>
    have hregex : Assoc.hasKey "$regex" (Assoc.put "$options" (.string "i") ops) = false := by
      rw [Assoc.hasKey_put, show Assoc.hasKey "$regex" ops = false from h]
      decide
    have hoptions : Json.optionsOf "$regex" (Assoc.put "$options" (.string "i") ops) = some (.string "i") := by
      rw [Json.optionsOf, if_pos rfl, Assoc.get?_put, if_pos rfl]
    change Json.operatorClauses path (Assoc.put "$regex" _ (Assoc.put "$options" _ ops)) = _
    rw [Json.operatorClauses_put_new _ (by decide) hregex, Json.operatorClauses_put_options _ h, hoptions]
    rfl
  | _ =>
    change Json.operatorClauses path (Assoc.put _ _ ops) = _
    rw [Json.operatorClauses_put_new _ hname h]
    rfl

/-- A constraint is written under its operator, and its options beside it. -/
theorem hasKey_addTo {key : String} (h : key ≠ "$options") (c : Constraint) (ops : Json.Entries) :
    Assoc.hasKey key (c.addTo ops) = (key == c.operatorName || Assoc.hasKey key ops) := by
  cases c with
  | like l =>
    change Assoc.hasKey _ (Assoc.put _ _ (Assoc.put _ _ ops)) = _
    rw [Assoc.hasKey_put, Assoc.hasKey_put, beq_eq_false_iff_ne.mpr h, Bool.false_or]
  | _ =>
    change Assoc.hasKey _ (Assoc.put _ _ ops) = _
    rw [Assoc.hasKey_put]

/-- No operator is taken for the wrapper of an instant. -/
theorem hasKey_dateKey_addTo (c : Constraint) (ops : Json.Entries) :
    Assoc.hasKey Scalar.dateKey (c.addTo ops) = Assoc.hasKey Scalar.dateKey ops := by
  rw [hasKey_addTo (by decide), beq_eq_false_iff_ne.mpr c.operatorName_ne.2.symm, Bool.false_or]

end Constraint

namespace Predicate

mutual

/-- The clauses that a predicate consists of, nested conjunctions flattened. -/
def clauses : Predicate → List Clause
  | .all => []
  | .field path c => [c.clause path]
  | .and ps => (clausesOfEach ps).flatten
  | .or ps => [.any (clausesOfEach ps)]
  | .nor ps => [.nor (clausesOfEach ps)]

/-- The clauses of each of some predicates. -/
def clausesOfEach : List Predicate → List (List Clause)
  | [] => []
  | p :: ps => clauses p :: clausesOfEach ps

end

theorem clausesOfEach_eq (ps : List Predicate) : clausesOfEach ps = ps.map clauses := by
  induction ps with
  | nil => rw [clausesOfEach, List.map_nil]
  | cons p ps ih => rw [clausesOfEach, ih, List.map_cons]

end Predicate

/-! ### What stands under a path -/

/-- An operand that equality asks for is one clause. -/
theorem Json.entryClauses_toJson (path : String) (v : Scalar) :
    entryClauses path v.toJson = [(Constraint.eq v).clause path] := by
  cases v <;> rfl

/-- A map of operators has the clauses of its operators. -/
theorem Json.entryClauses_object {path : String} {ops : Entries}
    (h : Assoc.hasKey Scalar.dateKey ops = false) :
    entryClauses path (.object ops) = operatorClauses path ops := by
  rw [entryClauses, fieldClauses, if_neg (by rw [h]; decide)]
  intro items hitems
  exact Json.noConfusion hitems

/-- A map of operators that takes one more constraint takes its clause. -/
theorem Constraint.entryClauses_addTo {path : String} {ops : Json.Entries} {c : Constraint}
    (h : Predicate.Draft.accepts ops c = true) :
    Json.entryClauses path (.object (c.addTo ops)) =
      Json.entryClauses path (.object ops) ++ [c.clause path] := by
  rw [Predicate.Draft.accepts, Bool.and_eq_true, Bool.not_eq_true', Bool.not_eq_true'] at h
  rw [Json.entryClauses_object (by rw [hasKey_dateKey_addTo, h.2]), Json.entryClauses_object h.2,
    operatorClauses_addTo h.1]

/-- A map of one operator is one clause. -/
theorem Constraint.entryClauses_addTo_nil (path : String) (c : Constraint) :
    Json.entryClauses path (.object (c.addTo [])) = [c.clause path] := by
  rw [entryClauses_addTo rfl]
  rfl

/-! ### Drafts -/

namespace Predicate

/-- The draft with one conjunct more. -/
def Draft.add (d : Draft) : Predicate → Draft
  | .all => d
  | .field path c => d.addField path c
  | .or qs => d.addGroup "$or" (documents qs)
  | .nor qs => d.addGroup "$nor" (documents qs)
  | .and qs => d.spill (drafted {} qs).toJson

theorem drafted_nil (d : Draft) : drafted d [] = d := rfl

theorem drafted_cons (d : Draft) (p : Predicate) (ps : List Predicate) :
    drafted d (p :: ps) = drafted (d.add p) ps := by
  cases p <;> rfl

theorem drafted_append (d : Draft) (ps qs : List Predicate) :
    drafted d (ps ++ qs) = drafted (drafted d ps) qs := by
  induction ps generalizing d with
  | nil => rfl
  | cons p ps ih => rw [List.cons_append, drafted_cons, drafted_cons, ih]

theorem documents_eq (ps : List Predicate) : documents ps = ps.map toDocument := by
  induction ps with
  | nil => rw [documents, List.map_nil]
  | cons p ps ih => rw [documents, ih, List.map_cons]

end Predicate

namespace Predicate.Draft

/-- The clauses that a draft has so far. -/
def clauses (d : Draft) : List Clause :=
  Json.entriesClauses d.entries ++ (Json.memberClauses d.spilled.reverse).flatten

theorem clauses_spill (d : Draft) (member : Json) :
    (d.spill member).clauses = d.clauses ++ member.clauses := by
  simp [clauses, spill, Json.memberClauses_eq]

/-- A new entry adds its clauses. -/
theorem clauses_put_new {d : Draft} {key : String} (h : Assoc.hasKey key d.entries = false) (v : Json) :
    ({ d with entries := Assoc.put key v d.entries } : Draft).clauses.Perm
      (d.clauses ++ Json.entryClauses key v) := by
  rw [clauses, Json.entriesClauses_put_new v h, clauses, List.append_assoc, List.append_assoc]
  exact List.perm_append_comm.append_left _

/-- An entry that takes more clauses adds them. -/
theorem clauses_put_more {d : Draft} {key : String} {v w : Json} {more : List Clause}
    (h : Assoc.get? key d.entries = some v)
    (hmore : Json.entryClauses key w = Json.entryClauses key v ++ more) :
    ({ d with entries := Assoc.put key w d.entries } : Draft).clauses.Perm (d.clauses ++ more) := by
  have hperm := Json.entriesClauses_put_perm h w
  rw [hmore] at hperm
  have hcancel : (Json.entriesClauses (Assoc.put key w d.entries)).Perm
      (Json.entriesClauses d.entries ++ more) :=
    (List.perm_append_right_iff (Json.entryClauses key v)).mp <|
      hperm.trans <| by
        rw [List.append_assoc]
        exact List.perm_append_comm.append_left _
  rw [clauses, clauses, List.append_assoc]
  refine (hcancel.append_right _).trans ?_
  rw [List.append_assoc]
  exact List.perm_append_comm.append_left _

/-- All constraints but equality are written alike: into the map of operators under their path, if there is
one that accepts them. -/
theorem addField_of_ne_eq {d : Draft} {path : String} {c : Constraint} (h : ∀ v, c ≠ .eq v) :
    d.addField path c =
      match Assoc.get? path d.entries with
      | none => { d with entries := Assoc.put path (.object (c.addTo [])) d.entries }
      | some (.object ops) =>
        if accepts ops c then { d with entries := Assoc.put path (.object (c.addTo ops)) d.entries }
        else d.spill (.object [(path, .object (c.addTo []))])
      | some _ => d.spill (.object [(path, .object (c.addTo []))]) := by
  cases c with
  | eq v => exact absurd rfl (h v)
  | _ => rfl

/-- **Each constraint adds its clause**, merged or spilled. -/
theorem clauses_addField (d : Draft) (path : String) (c : Constraint) :
    (d.addField path c).clauses.Perm (d.clauses ++ [c.clause path]) := by
  have hspill : (d.spill (.object [(path, .object (c.addTo []))])).clauses = d.clauses ++ [c.clause path] := by
    rw [clauses_spill, Json.clauses_object, Json.entriesClauses_singleton, Constraint.entryClauses_addTo_nil]
  by_cases heq : ∃ v, c = .eq v
  · obtain ⟨v, rfl⟩ := heq
    rw [addField]
    split
    · rw [clauses_spill, Json.clauses_object, Json.entriesClauses_singleton, Json.entryClauses_toJson]
    next hkey =>
      have hnew := clauses_put_new (Bool.eq_false_iff.mpr hkey) v.toJson
      rwa [Json.entryClauses_toJson] at hnew
  · rw [addField_of_ne_eq fun v hv => heq ⟨v, hv⟩]
    split
    next hnone =>
      have hkey : Assoc.hasKey path d.entries = false := by rw [Assoc.hasKey, hnone, Option.isSome_none]
      have hnew := clauses_put_new hkey (.object (c.addTo []))
      rwa [Constraint.entryClauses_addTo_nil] at hnew
    next ops hops =>
      split
      next haccepts => exact clauses_put_more hops (Constraint.entryClauses_addTo haccepts)
      · rw [hspill]
    · rw [hspill]

/-- **Each group adds its clause**, under its own key or under `$and`. -/
theorem clauses_addGroup {d : Draft} {key : String} {group : List (List Clause) → Clause}
    (h : ∀ items, Json.entryClauses key (.array items) = [group (Json.memberClauses items)])
    (members : List Json) :
    (d.addGroup key members).clauses.Perm (d.clauses ++ [group (Json.memberClauses members)]) := by
  rw [addGroup]
  split
  · rw [clauses_spill, Json.clauses_object, Json.entriesClauses_singleton, h]
  next hkey =>
    have hnew := clauses_put_new (Bool.eq_false_iff.mpr hkey) (.array members)
    rwa [h] at hnew

/-! ### Keys of a draft -/

/-- A constraint is written under no key but its path. -/
theorem hasKey_addField {d : Draft} {path key : String} (c : Constraint) (h : key ≠ path) :
    Assoc.hasKey key (d.addField path c).entries = Assoc.hasKey key d.entries := by
  have hput (v : Json) : Assoc.hasKey key (Assoc.put path v d.entries) = Assoc.hasKey key d.entries := by
    rw [Assoc.hasKey_put, beq_eq_false_iff_ne.mpr h, Bool.false_or]
  by_cases heq : ∃ v, c = .eq v
  · obtain ⟨v, rfl⟩ := heq
    rw [addField]
    split
    · rfl
    · exact hput _
  · rw [addField_of_ne_eq fun v hv => heq ⟨v, hv⟩]
    split
    · exact hput _
    · split
      · exact hput _
      · rfl
    · rfl

/-- A group is written under no key but its own. -/
theorem get?_addGroup {d : Draft} {groupKey key : String} (members : List Json) (h : key ≠ groupKey) :
    Assoc.get? key (d.addGroup groupKey members).entries = Assoc.get? key d.entries := by
  rw [addGroup]
  split
  · rfl
  · rw [Assoc.get?_put, if_neg h]

theorem hasKey_addGroup {d : Draft} {groupKey key : String} (members : List Json) (h : key ≠ groupKey) :
    Assoc.hasKey key (d.addGroup groupKey members).entries = Assoc.hasKey key d.entries := by
  rw [Assoc.hasKey, get?_addGroup members h, Assoc.hasKey]

/-! ### Finished documents -/

/-- A finished document has the clauses of its draft, if its `$and` overwrites no entry. -/
theorem clauses_toJson {d : Draft} (h : d.spilled = [] ∨ Assoc.hasKey "$and" d.entries = false) :
    d.toJson.clauses = d.clauses := by
  rw [toJson]
  split
  next hspilled =>
    rw [Json.clauses_object, clauses, List.isEmpty_iff.mp hspilled, List.reverse_nil, Json.memberClauses,
      List.flatten_nil, List.append_nil]
  next hspilled =>
    have hkey := h.resolve_left fun hnil => hspilled (List.isEmpty_iff.mpr hnil)
    rw [Json.clauses_object, Json.entriesClauses_put_new _ hkey, clauses, Json.entryClauses_and]

/-- If the `$and` of a finished document overwrites an entry, then the clauses of that entry are lost. -/
theorem clauses_toJson_of_overwritten {d : Draft} {v : Json} (h : d.spilled ≠ [])
    (hv : Assoc.get? "$and" d.entries = some v) :
    (d.toJson.clauses ++ Json.entryClauses "$and" v).Perm d.clauses := by
  rw [toJson, if_neg (mt List.isEmpty_iff.mp h), Json.clauses_object, clauses, ← Json.entryClauses_and]
  exact Json.entriesClauses_put_perm hv _

end Predicate.Draft

end Gatehouse

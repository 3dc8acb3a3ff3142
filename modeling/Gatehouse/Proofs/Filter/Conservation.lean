import Gatehouse.Proofs.Filter.Clauses
import Gatehouse.Proofs.Filter.Reading

/-!
# What rendering keeps of a filter

The document of a filter is compared with its predicate clause by clause (`Json.clauses`,
`Predicate.clauses`), each as often as it occurs. In a well-formed filter no two constraints get in each
other's way: those of one condition share one map of operators, those of another stand under another path
(`Filter.BaseFilter.drafted_conjuncts`). So the members of groups keep all of their clauses, in order.

The filter itself has groups beside its fields, and callers choose the names of fields. A field named like
a group sends the group to the list under `$and`; and that list overwrites a field named `$and`. The two
together are the only way to lose a clause (`Filter.clauses_perm_iff`).
-/

namespace Gatehouse

/-! ### Maps of operators -/

namespace Constraint

/-- Write constraints into a map of operators, one after the other. -/
def addAll (ops : Json.Entries) (cs : List Constraint) : Json.Entries :=
  cs.foldl (fun ops c => c.addTo ops) ops

/-- A map of operators accepts some constraints, one after the other. -/
def AcceptsAll (ops : Json.Entries) : List Constraint → Prop
  | [] => True
  | c :: cs => Predicate.Draft.accepts ops c = true ∧ AcceptsAll (c.addTo ops) cs

/-- Operators that are not there, and are all different, are accepted. -/
theorem acceptsAll_of_nodup {ops : Json.Entries} {cs : List Constraint}
    (hdate : Assoc.hasKey Scalar.dateKey ops = false)
    (hnew : ∀ c ∈ cs, Assoc.hasKey c.operatorName ops = false)
    (hnodup : (cs.map operatorName).Nodup) : AcceptsAll ops cs := by
  induction cs generalizing ops with
  | nil => exact trivial
  | cons c cs ih =>
    rw [List.map_cons, List.nodup_cons] at hnodup
    refine ⟨?_, ih (by rw [hasKey_dateKey_addTo, hdate]) (fun c' hc' => ?_) hnodup.2⟩
    · rw [Predicate.Draft.accepts, hnew c List.mem_cons_self, hdate]
      rfl
    · have hne : c'.operatorName ≠ c.operatorName := fun heq =>
        hnodup.1 (heq ▸ List.mem_map_of_mem hc')
      rw [hasKey_addTo c'.operatorName_ne.1, beq_eq_false_iff_ne.mpr hne,
        hnew c' (List.mem_cons_of_mem c hc')]
      rfl

/-- A map that accepts constraints takes their clauses, in order. -/
theorem entryClauses_addAll {path : String} {ops : Json.Entries} {cs : List Constraint}
    (h : AcceptsAll ops cs) :
    Json.entryClauses path (.object (addAll ops cs)) =
      Json.entryClauses path (.object ops) ++ cs.map (clause path) := by
  induction cs generalizing ops with
  | nil => rw [addAll, List.foldl_nil, List.map_nil, List.append_nil]
  | cons c cs ih =>
    obtain ⟨haccepts, hrest⟩ := h
    have htail := ih hrest
    rw [entryClauses_addTo haccepts, List.append_assoc] at htail
    exact htail

end Constraint

/-! ### Drafting the constraints of a condition -/

namespace Predicate

/-- Constraints on a path whose map of operators accepts them go into that map. -/
theorem drafted_addAll {path : String} {ops entries : Json.Entries} {spilled : List Json}
    {cs : List Constraint} (hne : ∀ c ∈ cs, ∀ v, c ≠ .eq v) (h : Constraint.AcceptsAll ops cs) :
    drafted ⟨Assoc.put path (.object ops) entries, spilled⟩ (cs.map (field path)) =
      ⟨Assoc.put path (.object (Constraint.addAll ops cs)) entries, spilled⟩ := by
  induction cs generalizing ops with
  | nil => rfl
  | cons c cs ih =>
    obtain ⟨haccepts, hrest⟩ := h
    have hfound : Assoc.get? path (Assoc.put path (.object ops) entries) = some (.object ops) := by
      rw [Assoc.get?_put, if_pos rfl]
    have hadd : (Draft.mk (Assoc.put path (.object ops) entries) spilled).add (field path c) =
        ⟨Assoc.put path (.object (c.addTo ops)) entries, spilled⟩ := by
      rw [Draft.add, Draft.addField_of_ne_eq (hne c List.mem_cons_self)]
      simp only [hfound, haccepts, if_true, Assoc.put_put]
    rw [List.map_cons, drafted_cons, hadd, ih (fun c' hc' => hne c' (List.mem_cons_of_mem c hc')) hrest]
    rfl

/-- A conjunction is drafted like its conjuncts, unless it is a single conjunction. -/
theorem toDocument_conjunction {ps : List Predicate} (h : ∀ p ∈ ps, ∀ qs, p ≠ .and qs) :
    (conjunction ps).toDocument = (drafted {} ps).toJson := by
  match ps with
  | [] =>
    rw [conjunction, toDocument]
    rfl
  | [p] =>
    rw [conjunction]
    cases p with
    | and qs => exact absurd rfl (h _ (List.mem_singleton_self _) qs)
    | _ =>
      rw [toDocument]
      rfl
  | p :: q :: ps =>
    have hand : conjunction (p :: q :: ps) = .and (p :: q :: ps) := rfl
    rw [hand, toDocument]

theorem clauses_conjunction (ps : List Predicate) : (conjunction ps).clauses = ps.flatMap clauses := by
  match ps with
  | [] => rw [conjunction, clauses, List.flatMap_nil]
  | [p] => rw [conjunction, List.flatMap_cons, List.flatMap_nil, List.append_nil]
  | p :: q :: ps =>
    have hand : conjunction (p :: q :: ps) = .and (p :: q :: ps) := rfl
    rw [hand, clauses, clausesOfEach_eq, List.flatMap_def]

end Predicate

namespace Filter

/-! ### Base filters -/

theorem Operator.operatorName_inj {op op' : Operator}
    (h : op.constraint.operatorName = op'.constraint.operatorName) : op.name = op'.name := by
  cases op <;> cases op' <;> first | rfl | simp [constraint, Constraint.operatorName] at h

/-- What is written of a condition under its path. -/
def Condition.document : Condition → Json
  | .equals v => v.toJson
  | .operators ops => .object (Constraint.addAll [] (ops.map Operator.constraint))

namespace Condition

/-- A map of operators accepts those of a well-formed condition. -/
theorem acceptsAll_operators {ops : List Operator} (h : (operators ops).WellFormed) :
    Constraint.AcceptsAll [] (ops.map Operator.constraint) := by
  refine Constraint.acceptsAll_of_nodup rfl (fun _ _ => rfl) ?_
  rw [List.map_map]
  exact List.pairwise_map.mpr <| (List.pairwise_map.mp h.2).imp fun hne heq =>
    hne (Operator.operatorName_inj heq)

/-- What is written of a condition has the clauses of its constraints. -/
theorem entryClauses_document {path : String} {c : Condition} (h : c.WellFormed) :
    Json.entryClauses path c.document = c.constraints.map (Constraint.clause path) := by
  cases c with
  | equals v => rw [document, Json.entryClauses_toJson, constraints, List.map_singleton]
  | operators ops =>
    rw [document, Constraint.entryClauses_addAll (acceptsAll_operators h), constraints]
    rfl

theorem constraints_ne_nil {c : Condition} (h : c.WellFormed) : c.constraints ≠ [] := by
  cases c with
  | equals v => exact List.cons_ne_nil _ _
  | operators ops => exact mt List.map_eq_nil_iff.mp h.1

/-- The constraints of a condition go under their path, if there is nothing yet. -/
theorem drafted_constraints {path : String} {d : Predicate.Draft} {c : Condition} (h : c.WellFormed)
    (hkey : Assoc.hasKey path d.entries = false) :
    Predicate.drafted d (c.constraints.map (.field path)) =
      { d with entries := Assoc.put path c.document d.entries } := by
  cases c with
  | equals v =>
    change d.addField path (.eq v) = _
    rw [Predicate.Draft.addField, if_neg (by rw [hkey]; decide)]
    rfl
  | operators ops =>
    cases ops with
    | nil => exact absurd rfl h.1
    | cons op ops =>
      have hne (op : Operator) (v : Scalar) : op.constraint ≠ .eq v := by cases op <;> simp [Operator.constraint]
      have hnone : Assoc.get? path d.entries = none := by
        rwa [Assoc.hasKey, Option.isSome_eq_false_iff, Option.isNone_iff_eq_none] at hkey
      have hfirst : d.add (.field path op.constraint) =
          ⟨Assoc.put path (.object (op.constraint.addTo [])) d.entries, d.spilled⟩ := by
        rw [Predicate.Draft.add, Predicate.Draft.addField_of_ne_eq (hne op), hnone]
      rw [constraints, List.map_cons, List.map_cons, Predicate.drafted_cons, hfirst,
        Predicate.drafted_addAll _ (acceptsAll_operators h).2]
      · rfl
      · intro c hc v
        obtain ⟨op', -, rfl⟩ := List.mem_map.mp hc
        exact hne op' v

end Condition

namespace BaseFilter

/-- What is written of a base filter. -/
def entries (fields : BaseFilter) : Json.Entries := fields.map fun f => (f.path, f.condition.document)

/-- **The conditions of a well-formed base filter are written one after the other**, under paths that are
not there yet. -/
theorem drafted_conjuncts {fields : BaseFilter} {d : Predicate.Draft} (h : fields.WellFormed)
    (hnew : ∀ f ∈ fields, Assoc.hasKey f.path d.entries = false) :
    Predicate.drafted d (conjuncts fields) = { d with entries := d.entries ++ entries fields } := by
  induction fields generalizing d with
  | nil =>
    change d = ⟨d.entries ++ [], d.spilled⟩
    rw [List.append_nil]
  | cons f fields ih =>
    obtain ⟨hpaths, hconditions⟩ := h
    rw [List.map_cons, List.nodup_cons] at hpaths
    have hkey := hnew f List.mem_cons_self
    have hrest : WellFormed fields := ⟨hpaths.2, fun g hg => hconditions g (List.mem_cons_of_mem f hg)⟩
    have hconj : conjuncts (f :: fields) = f.condition.constraints.map (.field f.path) ++ conjuncts fields := by
      rw [conjuncts, List.flatMap_cons]
      rfl
    rw [hconj, Predicate.drafted_append,
      Condition.drafted_constraints (hconditions f List.mem_cons_self) hkey, ih hrest]
    · rw [Assoc.put_eq_append _ hkey, List.append_assoc]
      rfl
    · intro g hg
      have hne : g.path ≠ f.path := fun heq => hpaths.1 (heq ▸ List.mem_map_of_mem hg)
      rw [Assoc.hasKey_put, beq_eq_false_iff_ne.mpr hne, hnew g (List.mem_cons_of_mem f hg)]
      rfl

/-- What is written of a well-formed base filter has the clauses of its constraints. -/
theorem entriesClauses_entries {fields : BaseFilter} (h : fields.WellFormed) :
    Json.entriesClauses (entries fields) = (conjuncts fields).flatMap Predicate.clauses := by
  obtain ⟨-, hconditions⟩ := h
  induction fields with
  | nil => rfl
  | cons f fields ih =>
    have hfield (c : Constraint) : (Predicate.field f.path c).clauses = [c.clause f.path] := by
      rw [Predicate.clauses]
    have hhead : Json.entryClauses f.path f.condition.document =
        (f.condition.constraints.map (Predicate.field f.path)).flatMap Predicate.clauses := by
      rw [Condition.entryClauses_document (hconditions f List.mem_cons_self), List.flatMap_map]
      simp only [hfield]
      rw [List.map_eq_flatMap]
    have htail := ih fun g hg => hconditions g (List.mem_cons_of_mem f hg)
    rw [entries] at htail
    rw [entries, List.map_cons, Json.entriesClauses, conjuncts, List.flatMap_cons, List.flatMap_append, htail,
      hhead]
    rfl

theorem ne_and_of_mem_conjuncts {fields : BaseFilter} {p : Predicate} (hp : p ∈ conjuncts fields)
    (qs : List Predicate) : p ≠ .and qs := by
  obtain ⟨f, -, hc⟩ := List.mem_flatMap.mp hp
  obtain ⟨c, -, rfl⟩ := List.mem_map.mp hc
  simp

/-- The document of a well-formed base filter, as a member of a group, has its clauses in order. -/
theorem clauses_toDocument_compile {fields : BaseFilter} (h : fields.WellFormed) :
    (compile fields).toDocument.clauses = (compile fields).clauses := by
  rw [compile, Predicate.toDocument_conjunction fun p hp => ne_and_of_mem_conjuncts hp,
    Predicate.clauses_conjunction, drafted_conjuncts h fun _ _ => rfl, ← entriesClauses_entries h]
  rfl

/-- The members of a group keep their clauses. -/
theorem memberClauses_documents {bases : List BaseFilter} (h : ∀ base ∈ bases, WellFormed base) :
    Json.memberClauses (Predicate.documents (bases.map compile)) =
      Predicate.clausesOfEach (bases.map compile) := by
  rw [Predicate.documents_eq, Json.memberClauses_eq, Predicate.clausesOfEach_eq, List.map_map, List.map_map,
    List.map_map]
  exact List.map_congr_left fun base hbase => clauses_toDocument_compile (h base hbase)

end BaseFilter

end Filter

/-! ### Drafts with groups -/

namespace Predicate.Draft

/-- The draft with a group, if there is one. -/
def addGroup? (d : Draft) (key : String) : Option (List Json) → Draft
  | none => d
  | some members => d.addGroup key members

variable {d : Draft} {key : String} {group : Option (List Json)}

theorem get?_addGroup? {other : String} (h : other ≠ key) :
    Assoc.get? other (d.addGroup? key group).entries = Assoc.get? other d.entries := by
  cases group with
  | none => rfl
  | some members => exact get?_addGroup members h

/-- A group is spilled if its key is taken. -/
theorem spilled_addGroup?_ne_nil_iff :
    (d.addGroup? key group).spilled ≠ [] ↔
      d.spilled ≠ [] ∨ (Assoc.hasKey key d.entries = true ∧ group.isSome = true) := by
  cases group with
  | none => simp [addGroup?]
  | some members =>
    rw [addGroup?, addGroup]
    split
    next hkey => simp [spill, hkey]
    next hkey => simp [hkey]

theorem clauses_addGroup? {clause : List (List Clause) → Clause}
    (h : ∀ items, Json.entryClauses key (.array items) = [clause (Json.memberClauses items)]) :
    (d.addGroup? key group).clauses.Perm
      (d.clauses ++ (group.map fun members => clause (Json.memberClauses members)).toList) := by
  cases group with
  | none =>
    rw [Option.map_none, Option.toList_none, List.append_nil]
    exact List.Perm.refl _
  | some members => exact clauses_addGroup h members

end Predicate.Draft

/-! ### Filters -/

namespace Filter

namespace Expression

/-- A group of a filter goes to the list under `$and`: a field is named like its key. -/
def SpillsGroup (e : Expression) : Prop :=
  ("$or" ∈ e.fields.map (·.path) ∧ e.any.isSome = true) ∨
    ("$nor" ∈ e.fields.map (·.path) ∧ e.nor.isSome = true)

instance (e : Expression) : Decidable e.SpillsGroup := inferInstanceAs (Decidable (_ ∨ _))

/-- The documents of the members of a group. -/
def memberDocuments (bases : List BaseFilter) : List Json :=
  Predicate.documents (bases.map BaseFilter.compile)

/-- What is drafted of a filter. -/
def draft (e : Expression) : Predicate.Draft :=
  ((Predicate.Draft.mk (BaseFilter.entries e.fields) []).addGroup? "$or" (e.any.map memberDocuments)).addGroup?
    "$nor" (e.nor.map memberDocuments)

variable {e : Expression}

/-- A group of a filter is drafted under its key. -/
theorem drafted_group {d : Predicate.Draft} {key : String} {group : Option (List BaseFilter)}
    {predicate : List Predicate → Predicate}
    (hadd : ∀ ps, d.add (predicate ps) = d.addGroup key (Predicate.documents ps)) :
    Predicate.drafted d (group.map fun bases => predicate (bases.map BaseFilter.compile)).toList =
      d.addGroup? key (group.map memberDocuments) := by
  cases group with
  | none => rfl
  | some bases =>
    rw [Option.map_some, Option.toList_some, Predicate.drafted_cons, hadd]
    rfl

theorem toDocument_compile (h : e.WellFormed) : e.compile.toDocument = e.draft.toJson := by
  rw [compile, Predicate.toDocument_conjunction, Predicate.drafted_append, Predicate.drafted_append,
    drafted_group fun _ => rfl, drafted_group fun _ => rfl, BaseFilter.drafted_conjuncts h.fields fun _ _ => rfl]
  · rfl
  · intro p hp qs
    obtain hfields | hp := List.mem_append.mp hp
    · obtain hfields | hp := List.mem_append.mp hfields
      · exact BaseFilter.ne_and_of_mem_conjuncts hfields qs
      · obtain ⟨bases, -, rfl⟩ := Option.map_eq_some_iff.mp (Option.mem_toList.mp hp)
        simp
    · obtain ⟨bases, -, rfl⟩ := Option.map_eq_some_iff.mp (Option.mem_toList.mp hp)
      simp

/-- What is drafted of a group has the clause of the group. -/
theorem groupClauses_eq {group : Option (List BaseFilter)} {predicate : List Predicate → Predicate}
    {clause : List (List Clause) → Clause}
    (hclause : ∀ ps, (predicate ps).clauses = [clause (Predicate.clausesOfEach ps)])
    (h : ∀ bases, group = some bases → ∀ base ∈ bases, BaseFilter.WellFormed base) :
    ((group.map memberDocuments).map fun members => clause (Json.memberClauses members)).toList =
      (group.map fun bases => predicate (bases.map BaseFilter.compile)).toList.flatMap Predicate.clauses := by
  cases group with
  | none => rfl
  | some bases =>
    have hmembers := BaseFilter.memberClauses_documents (h bases rfl)
    simp only [Option.map_some, Option.toList_some, memberDocuments, hmembers, List.flatMap_cons,
      List.flatMap_nil, hclause, List.append_nil]

/-- Before it is finished, the draft of a filter has all of its clauses. -/
theorem clauses_draft (h : e.WellFormed) : e.draft.clauses.Perm e.compile.clauses := by
  have hor (ps : List Predicate) : (Predicate.or ps).clauses = [.any (Predicate.clausesOfEach ps)] := by
    rw [Predicate.clauses]
  have hnor (ps : List Predicate) : (Predicate.nor ps).clauses = [.nor (Predicate.clausesOfEach ps)] := by
    rw [Predicate.clauses]
  have hfields : (Predicate.Draft.mk (BaseFilter.entries e.fields) []).clauses =
      (BaseFilter.conjuncts e.fields).flatMap Predicate.clauses := by
    rw [Predicate.Draft.clauses, BaseFilter.entriesClauses_entries h.fields]
    exact List.append_nil _
  rw [compile, Predicate.clauses_conjunction, List.flatMap_append, List.flatMap_append, ← hfields,
    ← groupClauses_eq hor h.any, ← groupClauses_eq hnor h.nor]
  exact (Predicate.Draft.clauses_addGroup? Json.entryClauses_nor).trans
    ((Predicate.Draft.clauses_addGroup? Json.entryClauses_or).append_right _)

theorem get?_draft_and : Assoc.get? "$and" e.draft.entries = Assoc.get? "$and" (BaseFilter.entries e.fields) := by
  rw [draft, Predicate.Draft.get?_addGroup? (by decide), Predicate.Draft.get?_addGroup? (by decide)]

theorem hasKey_entries_iff {fields : BaseFilter} {key : String} :
    Assoc.hasKey key (BaseFilter.entries fields) = true ↔ key ∈ fields.map (·.path) := by
  rw [Assoc.hasKey_iff, BaseFilter.entries, List.map_map]
  rfl

theorem spilled_draft_ne_nil_iff : e.draft.spilled ≠ [] ↔ e.SpillsGroup := by
  have hnor (group : Option (List Json)) :
      Assoc.hasKey "$nor" ((Predicate.Draft.mk (BaseFilter.entries e.fields) []).addGroup? "$or" group).entries =
        Assoc.hasKey "$nor" (BaseFilter.entries e.fields) := by
    rw [Assoc.hasKey, Predicate.Draft.get?_addGroup? (by decide), Assoc.hasKey]
  rw [draft, Predicate.Draft.spilled_addGroup?_ne_nil_iff, Predicate.Draft.spilled_addGroup?_ne_nil_iff, hnor,
    hasKey_entries_iff, hasKey_entries_iff, Option.isSome_map, Option.isSome_map, SpillsGroup]
  simp

/-- **A spilled group overwrites the field named `$and`**, and the clauses of that field are lost, no others. -/
theorem clauses_of_overwritten (h : e.WellFormed) (hand : "$and" ∈ e.fields.map (·.path))
    (hspills : e.SpillsGroup) :
    ∃ f ∈ e.fields, f.path = "$and" ∧
      (e.compile.toDocument.clauses ++ f.condition.constraints.map (Constraint.clause "$and")).Perm
        e.compile.clauses := by
  obtain ⟨v, hv⟩ := Option.isSome_iff_exists.mp (hasKey_entries_iff.mpr hand)
  obtain ⟨f, hf, heq⟩ := List.mem_map.mp (Assoc.mem_of_get? hv)
  obtain ⟨hpath, rfl⟩ := Prod.mk.injEq .. ▸ heq
  refine ⟨f, hf, hpath, ?_⟩
  rw [← get?_draft_and] at hv
  rw [toDocument_compile h, ← Condition.entryClauses_document (h.fields.conditions f hf)]
  exact (Predicate.Draft.clauses_toJson_of_overwritten (spilled_draft_ne_nil_iff.mpr hspills) hv).trans
    (clauses_draft h)

/-- If no entry is overwritten, then no clause is lost. -/
theorem clauses_of_not_overwritten (h : e.WellFormed)
    (hsafe : ¬ ("$and" ∈ e.fields.map (·.path) ∧ e.SpillsGroup)) :
    e.compile.toDocument.clauses.Perm e.compile.clauses := by
  have hfinish : e.draft.spilled = [] ∨ Assoc.hasKey "$and" e.draft.entries = false := by
    by_cases hspilled : e.draft.spilled = []
    · exact .inl hspilled
    · refine .inr (Bool.eq_false_iff.mpr fun hkey => hsafe ⟨?_, spilled_draft_ne_nil_iff.mp hspilled⟩)
      rw [Assoc.hasKey, get?_draft_and] at hkey
      exact hasKey_entries_iff.mp hkey
  rw [toDocument_compile h, Predicate.Draft.clauses_toJson hfinish]
  exact clauses_draft h

end Expression

/-- **The document of a filter that was read from a text has exactly the clauses of its predicate, unless a
field is named `$and` and a group is spilled.** Each constraint and each group with its members occurs as
often as in the predicate, whatever other names the fields have. A group is spilled if a field is named like
its key, `$or` or `$nor`. -/
theorem clauses_perm_iff {text : String} {e : Expression} (h : read text = .ok e) :
    e.compile.toDocument.clauses.Perm e.compile.clauses ↔
      ¬ ("$and" ∈ e.fields.map (·.path) ∧
        ("$or" ∈ e.fields.map (·.path) ∧ e.any.isSome = true ∨
          "$nor" ∈ e.fields.map (·.path) ∧ e.nor.isSome = true)) := by
  have hwell := wellFormed_of_read h
  constructor
  · rintro hkept ⟨hand, hspills⟩
    obtain ⟨f, hf, -, hlost⟩ := Expression.clauses_of_overwritten hwell hand hspills
    have hlength := hlost.length_eq
    rw [List.length_append, hkept.length_eq, List.length_map] at hlength
    have hnone : f.condition.constraints.length = 0 := by omega
    exact Condition.constraints_ne_nil (hwell.fields.conditions f hf) (List.length_eq_zero_iff.mp hnone)
  · exact Expression.clauses_of_not_overwritten hwell

/-- A group that is spilled beside its namesake keeps its place under `$and`. -/
theorem clauses_perm_of_namesake :
    ∃ e, read "\x7b\"$or\":2,\"or\":[\x7b\"a\":1\x7d]\x7d" = .ok e ∧ e.SpillsGroup ∧
      e.compile.toDocument.clauses.Perm e.compile.clauses := by
  let e : Expression :=
    { fields := [⟨"$or", .equals (.number (.int 2))⟩]
      any := some [[⟨"a", .equals (.number (.int 1))⟩]] }
  have hread : read "\x7b\"$or\":2,\"or\":[\x7b\"a\":1\x7d]\x7d" = .ok e := rfl
  exact ⟨e, hread, by decide, (clauses_perm_iff hread).mpr (by decide)⟩

/-- With a field named `$and` as well, the constraint of that field is lost. -/
theorem clauses_not_perm_of_field_and :
    ∃ e, read "\x7b\"$and\":1,\"$or\":2,\"or\":[\x7b\"a\":1\x7d]\x7d" = .ok e ∧
      e.compile.toDocument = .object
        [("$and", .array [.object [("$or", .array [.object [("a", .ofInt 1)]])]]), ("$or", .ofInt 2)] ∧
      (Constraint.eq (.number (.int 1))).clause "$and" ∈ e.compile.clauses ∧
      ¬ e.compile.toDocument.clauses.Perm e.compile.clauses := by
  let e : Expression :=
    { fields := [⟨"$and", .equals (.number (.int 1))⟩, ⟨"$or", .equals (.number (.int 2))⟩]
      any := some [[⟨"a", .equals (.number (.int 1))⟩]] }
  have hlength : e.compile.toDocument.clauses.length = 2 ∧ e.compile.clauses.length = 3 := ⟨rfl, rfl⟩
  refine ⟨e, rfl, rfl, List.mem_cons_self, fun hperm => ?_⟩
  exact absurd hperm.length_eq (by rw [hlength.1, hlength.2]; decide)

end Filter

end Gatehouse

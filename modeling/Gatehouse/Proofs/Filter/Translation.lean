import Gatehouse.Proofs.Filter.Conservation
import Gatehouse.Proofs.Filter.Grammar

/-!
# Filters translated entry by entry

The object of a filter is translated into a query document in one pass (`Filter.translate`): a field stays
where it is, its operators take the names that the store has for them, and the groups go to the end.

The document of a compiled filter comes about in another way: the conditions of a field are taken apart into
constraints, and these are put together again, one after the other. For a filter that was read from a text
both come to the same (`Filter.toDocument_compile_eq_translate`), because no constraint gets in the way of
another: the operators of a condition are all different, and so are the paths. Only a path that begins with a
dollar sign may clash with a key of the store's own, and then a member is moved under `$and`.
-/

namespace Gatehouse

/-! ### What is written of constraints -/

namespace Constraint

/-- The entries that a constraint adds to a map of operators. -/
def written : Constraint → Json.Entries
  | .like l => [("$options", .string "i"), ("$regex", .string l.source)]
  | c => [(c.operatorName, c.operand)]

/-- Where none of its keys is taken, a constraint is written at the end. -/
theorem addTo_eq_append {ops : Json.Entries} {c : Constraint}
    (h : ∀ key ∈ c.written.map (·.1), Assoc.hasKey key ops = false) : c.addTo ops = ops ++ c.written := by
  cases c with
  | like l =>
    have hoptions : Assoc.hasKey "$options" ops = false := h _ (by simp [written])
    have hregex : Assoc.hasKey "$regex" (ops ++ [("$options", .string "i")]) = false := by
      rw [← Assoc.put_eq_append _ hoptions, Assoc.hasKey_put, h _ (by simp [written])]
      decide
    change Assoc.put "$regex" _ (Assoc.put "$options" _ ops) = _
    rw [Assoc.put_eq_append _ hoptions, Assoc.put_eq_append _ hregex, List.append_assoc]
    rfl
  | _ => exact Assoc.put_eq_append _ (h _ (by simp [written]))

/-- Constraints with different keys are written one after the other. -/
theorem addAll_eq_append {ops : Json.Entries} {cs : List Constraint}
    (hnew : ∀ c ∈ cs, ∀ key ∈ c.written.map (·.1), Assoc.hasKey key ops = false)
    (hnodup : ((cs.flatMap written).map (·.1)).Nodup) : addAll ops cs = ops ++ cs.flatMap written := by
  induction cs generalizing ops with
  | nil => rw [List.flatMap_nil, List.append_nil]; rfl
  | cons c cs ih =>
    have hfirst := addTo_eq_append (hnew c List.mem_cons_self)
    rw [List.flatMap_cons, List.map_append, List.nodup_append] at hnodup
    obtain ⟨-, hrest, hdisjoint⟩ := hnodup
    have htail : addAll (ops ++ c.written) cs = ops ++ c.written ++ cs.flatMap written := by
      refine ih (fun c' hc' key hkey => ?_) hrest
      have hold := Assoc.hasKey_eq_false_iff.mp (hnew c' (List.mem_cons_of_mem c hc') key hkey)
      rw [Assoc.hasKey_eq_false_iff, List.map_append, List.mem_append]
      rintro (hmem | hmem)
      · exact hold hmem
      · obtain ⟨e, he, rfl⟩ := List.mem_map.mp hkey
        exact hdisjoint _ hmem _ (List.mem_map_of_mem (List.mem_flatMap_of_mem hc' he)) rfl
    rw [List.flatMap_cons, ← List.append_assoc, ← htail, ← hfirst]
    rfl

/-- A key of a constraint tells its operator. -/
theorem operatorName_eq_of_mem_written {c c' : Constraint} {key : String}
    (h : key ∈ c.written.map (·.1)) (h' : key ∈ c'.written.map (·.1)) : c.operatorName = c'.operatorName := by
  cases c <;> cases c' <;> simp_all [written, operatorName]

/-- Different operators have different keys. -/
theorem nodup_keys_written {cs : List Constraint} (h : (cs.map operatorName).Nodup) :
    ((cs.flatMap written).map (·.1)).Nodup := by
  induction cs with
  | nil => exact List.nodup_nil
  | cons c cs ih =>
    rw [List.map_cons, List.nodup_cons] at h
    rw [List.flatMap_cons, List.map_append, List.nodup_append]
    refine ⟨?_, ih h.2, ?_⟩
    · cases c <;> simp [written]
    · rintro key hkey _ hmem rfl
      obtain ⟨e, he, rfl⟩ := List.mem_map.mp hmem
      obtain ⟨c', hc', hwritten⟩ := List.mem_flatMap.mp he
      have hsame := operatorName_eq_of_mem_written hkey (List.mem_map_of_mem hwritten)
      exact h.1 (hsame ▸ List.mem_map_of_mem hc')

/-- Different operators are written one after the other. -/
theorem addAll_nil {cs : List Constraint} (h : (cs.map operatorName).Nodup) :
    addAll [] cs = cs.flatMap written :=
  addAll_eq_append (fun _ _ _ _ => rfl) (nodup_keys_written h)

end Constraint

namespace Filter

/-! ### The translation -/

/-- A scalar in the language of the store: a text that reads as an instant is wrapped, with three digits of
the second, and any other scalar stays as it is. -/
def translateScalar : Json → Json
  | .string s =>
    match Instant.parse? s with
    | some t => .object [("$date", .string t.renderMillis)]
    | none => .string s
  | v => v

/-- An operand: a list of scalars, or one. -/
def translateOperand : Json → Json
  | .array items => .array (items.map translateScalar)
  | v => translateScalar v

/-- An operator under the name that the store has for it. A pattern is preceded by its option. -/
def translateOperator : String × Json → Json.Entries
  | ("like", v) => [("$options", .string "i"), ("$regex", v)]
  | (name, v) => [("$" ++ name, translateOperand v)]

/-- What stands under a path: a map of operators, each of them in its place, or a literal. -/
def translateCondition : Json → Json
  | .object ops => .object (ops.flatMap translateOperator)
  | v => translateScalar v

/-- Fields keep their paths and places. -/
def translateFields (entries : Json.Entries) : Json.Entries :=
  entries.map fun e => (e.1, translateCondition e.2)

/-- A base filter. -/
def translateBase : Json → Json
  | .object entries => .object (translateFields entries)
  | v => v

/-- A group. -/
def translateGroup : Json → Json
  | .array items => .array (items.map translateBase)
  | v => v

/-- The object of a filter: first the fields, then the group `or`, then the group `nor`, wherever they
stood. -/
def translate (entries : Json.Entries) : Json :=
  .object <| translateFields (entries.filter fun e => !isGroupKey e.1)
    ++ ((Assoc.get? orKey entries).map fun v => ("$or", translateGroup v)).toList
    ++ ((Assoc.get? norKey entries).map fun v => ("$nor", translateGroup v)).toList

/-! ### What is denoted is written as it is translated -/

theorem toJson_of_ofJson? {v : Json} {x : Scalar} (h : Scalar.ofJson? v = some x) :
    x.toJson = translateScalar v := by
  cases v with
  | string s =>
    obtain rfl := Option.some.inj h
    rw [translateScalar]
    cases Instant.parse? s with
    | none => rfl
    | some t => rfl
  | array items => exact absurd h (by simp [Scalar.ofJson?])
  | object entries => exact absurd h (by simp [Scalar.ofJson?])
  | _ =>
    obtain rfl := Option.some.inj h
    rfl

theorem map_toJson_of_denoteScalars {items : List Json} {xs : List Scalar} (h : DenoteScalars items xs) :
    xs.map Scalar.toJson = items.map translateScalar :=
  map_eq_of_forall₂ (fun _ _ hx => toJson_of_ofJson? hx) h

/-- One operand is translated as a scalar. -/
theorem translateOperand_of_ofJson? {v : Json} {x : Scalar} (h : Scalar.ofJson? v = some x) :
    translateOperand v = x.toJson := by
  rw [toJson_of_ofJson? h]
  cases v with
  | array items => exact absurd h (by simp [Scalar.ofJson?])
  | _ => rfl

theorem Operator.written_constraint {entry : String × Json} {op : Operator} (h : op.DenotedBy entry) :
    op.constraint.written = translateOperator entry := by
  cases h with
  | oneOf hitems | noneOf hitems =>
    simp [translateOperator, translateOperand, ← map_toJson_of_denoteScalars hitems, constraint,
      Constraint.written, Constraint.operatorName, Constraint.operand]
  | ne hx | gt hx | gte hx | lt hx | lte hx =>
    simp [translateOperator, translateOperand_of_ofJson? hx, constraint, Constraint.written,
      Constraint.operatorName, Constraint.operand]
  | like l => rfl

/-- The operators of a well-formed condition are written one after the other. -/
theorem Condition.document_operators {ops : List Operator} (h : (operators ops).WellFormed) :
    (operators ops).document = .object ((ops.map Operator.constraint).flatMap Constraint.written) := by
  have hnames : ((ops.map Operator.constraint).map Constraint.operatorName).Nodup := by
    rw [List.map_map]
    exact List.pairwise_map.mpr <| (List.pairwise_map.mp h.2).imp fun hne heq =>
      hne (Operator.operatorName_inj heq)
  rw [document, Constraint.addAll_nil hnames]

theorem Condition.document_eq_translate {v : Json} {c : Condition} (h : c.DenotedBy v)
    (hwell : c.WellFormed) : c.document = translateCondition v := by
  cases h with
  | equals hx =>
    rw [document, toJson_of_ofJson? hx]
    cases v with
    | object entries => exact absurd hx (by simp [Scalar.ofJson?])
    | _ => rfl
  | @operators entries ops hne hops =>
    have hwritten : (ops.map Operator.constraint).map Constraint.written = entries.map translateOperator := by
      rw [List.map_map]
      exact map_eq_of_forall₂ (fun _ _ hop => Operator.written_constraint hop) hops
    rw [document_operators hwell, translateCondition, List.flatMap_def, hwritten, ← List.flatMap_def]

theorem BaseFilter.entries_eq_translate {entries : Json.Entries} {fields : BaseFilter}
    (h : List.Forall₂ FieldFilter.DenotedBy entries fields) (hwell : ∀ f ∈ fields, f.condition.WellFormed) :
    BaseFilter.entries fields = translateFields entries := by
  induction h with
  | nil => rfl
  | @cons entry f entries fields hf _ ih =>
    have hfirst : (f.path, f.condition.document) = (entry.1, translateCondition entry.2) := by
      rw [hf.path, Condition.document_eq_translate hf.condition (hwell f List.mem_cons_self)]
    have hrest := ih fun g hg => hwell g (List.mem_cons_of_mem f hg)
    rw [BaseFilter.entries] at hrest
    rw [BaseFilter.entries, List.map_cons, hfirst, hrest]
    rfl

theorem BaseFilter.toDocument_compile {fields : BaseFilter} (h : fields.WellFormed) :
    (compile fields).toDocument = .object (entries fields) := by
  rw [compile, Predicate.toDocument_conjunction fun p hp => ne_and_of_mem_conjuncts hp,
    drafted_conjuncts h fun _ _ => rfl]
  rfl

/-- The members of a group are written in order, each by itself. -/
theorem Expression.memberDocuments_eq {bases : List BaseFilter} (h : ∀ base ∈ bases, base.WellFormed) :
    memberDocuments bases = bases.map fun base => .object (BaseFilter.entries base) := by
  rw [memberDocuments, Predicate.documents_eq, List.map_map]
  exact List.map_congr_left fun base hbase => BaseFilter.toDocument_compile (h base hbase)

theorem memberDocuments_eq_translate {items : List Json} {bases : List BaseFilter}
    (h : List.Forall₂ BaseFilter.DenotedBy items bases) (hwell : ∀ base ∈ bases, base.WellFormed) :
    Expression.memberDocuments bases = items.map translateBase := by
  rw [Expression.memberDocuments_eq hwell]
  induction h with
  | nil => rfl
  | @cons item base items bases hbase _ ih =>
    have hfirst : Json.object (BaseFilter.entries base) = translateBase item := by
      cases hbase with
      | object hfields =>
        rw [BaseFilter.entries_eq_translate hfields (hwell base List.mem_cons_self).conditions, translateBase]
    rw [List.map_cons, List.map_cons, hfirst, ih fun base hbase => hwell base (List.mem_cons_of_mem _ hbase)]

/-- What is written of a group, under its key. -/
def groupEntry (key : String) (group : Option (List BaseFilter)) : Json.Entries :=
  (group.map fun bases => (key, .array (Expression.memberDocuments bases))).toList

theorem groupEntry_eq_translate {key : String} {v : Option Json} {group : Option (List BaseFilter)}
    (h : GroupDenotedBy v group) (hwell : ∀ bases, group = some bases → ∀ base ∈ bases, base.WellFormed) :
    groupEntry key group = (v.map fun v => (key, translateGroup v)).toList := by
  cases h with
  | absent => rfl
  | array _ hbases =>
    rw [groupEntry, Option.map_some, memberDocuments_eq_translate hbases (hwell _ rfl)]
    rfl

/-! ### Whole documents -/

/-- A group whose key is free goes to the end of a draft. -/
theorem Predicate.Draft.addGroup?_eq (d : Predicate.Draft) {key : String} (group : Option (List BaseFilter))
    (h : Assoc.hasKey key d.entries = false) :
    d.addGroup? key (group.map Expression.memberDocuments) =
      { d with entries := d.entries ++ groupEntry key group } := by
  cases group with
  | none =>
    change d = ⟨d.entries ++ [], d.spilled⟩
    rw [List.append_nil]
  | some bases =>
    rw [Option.map_some, Predicate.Draft.addGroup?, Predicate.Draft.addGroup, h, if_neg Bool.false_ne_true,
      Assoc.put_eq_append _ h]
    rfl

/-- **Where no path is the key of a group, fields and groups are written one after the other.** -/
theorem Expression.toDocument_compile_eq_object {e : Expression} (h : e.WellFormed)
    (hor : "$or" ∉ e.fields.map (·.path)) (hnor : "$nor" ∉ e.fields.map (·.path)) :
    e.compile.toDocument =
      .object (BaseFilter.entries e.fields ++ groupEntry "$or" e.any ++ groupEntry "$nor" e.nor) := by
  have hfree {key : String} (hkey : key ∉ e.fields.map (·.path)) :
      Assoc.hasKey key (BaseFilter.entries e.fields) = false :=
    Bool.eq_false_iff.mpr (mt hasKey_entries_iff.mp hkey)
  have hstill : Assoc.hasKey "$nor" (BaseFilter.entries e.fields ++ groupEntry "$or" e.any) = false := by
    rw [Assoc.hasKey_eq_false_iff, List.map_append, List.mem_append]
    rintro (hmem | hmem)
    · exact Assoc.hasKey_eq_false_iff.mp (hfree hnor) hmem
    · obtain ⟨entry, hentry, hkey⟩ := List.mem_map.mp hmem
      obtain ⟨bases, -, rfl⟩ := Option.map_eq_some_iff.mp (Option.mem_toList.mp hentry)
      exact absurd hkey (by simp)
  have hfirst := Predicate.Draft.addGroup?_eq ⟨BaseFilter.entries e.fields, []⟩ e.any (hfree hor)
  have hsecond := Predicate.Draft.addGroup?_eq
    ⟨BaseFilter.entries e.fields ++ groupEntry "$or" e.any, []⟩ e.nor hstill
  rw [toDocument_compile h, draft, hfirst, hsecond]
  rfl

/-! ### Keys of the store -/

/-- The path begins with a dollar sign, as the keys of the store do. -/
def IsReserved (path : String) : Prop := path.toList.head? = some '$'

instance : DecidablePred IsReserved := fun _ => inferInstanceAs (Decidable (_ = _))

/-- The paths of the fields of a filter, those in its groups included. -/
def Expression.paths (e : Expression) : List String :=
  (e.fields ++ (e.any.getD []).flatten ++ (e.nor.getD []).flatten).map (·.path)

end Filter

/-- No object inside the value has this key. -/
inductive Json.LacksKey (key : String) : Json → Prop where
  | null : LacksKey key .null
  | bool (b : Bool) : LacksKey key (.bool b)
  | number (n : Number) : LacksKey key (.number n)
  | string (s : String) : LacksKey key (.string s)
  | array {items : List Json} (h : ∀ v ∈ items, LacksKey key v) : LacksKey key (.array items)
  | object {entries : Json.Entries} (hkeys : ∀ e ∈ entries, e.1 ≠ key) (h : ∀ e ∈ entries, LacksKey key e.2) :
      LacksKey key (.object entries)

theorem Json.LacksKey.ofEntries {key : String} {entries : Json.Entries}
    (h : ∀ e ∈ entries, e.1 ≠ key ∧ e.2.LacksKey key) : (Json.object entries).LacksKey key :=
  .object (fun e he => (h e he).1) fun e he => (h e he).2

theorem Scalar.lacksKey_toJson (x : Scalar) : x.toJson.LacksKey "$and" := by
  cases x with
  | null => exact .null
  | bool b => exact .bool b
  | number n => exact .number n
  | string s => exact .string s
  | instant t =>
    refine .ofEntries fun e he => ?_
    obtain rfl := List.mem_singleton.mp he
    exact ⟨by simp [dateKey], .string _⟩

theorem Constraint.lacksKey_operand (c : Constraint) : c.operand.LacksKey "$and" := by
  cases c with
  | eq v | ne v | gt v | gte v | lt v | lte v => exact v.lacksKey_toJson
  | oneOf vs | noneOf vs =>
    refine .array fun v hv => ?_
    obtain ⟨x, -, rfl⟩ := List.mem_map.mp hv
    exact x.lacksKey_toJson
  | like l => exact .string _

theorem Constraint.lacksKey_of_mem_written {c : Constraint} {e : String × Json} (he : e ∈ c.written) :
    e.1 ≠ "$and" ∧ e.2.LacksKey "$and" := by
  have hoperand := c.lacksKey_operand
  cases c with
  | like l =>
    simp only [written, List.mem_cons, List.not_mem_nil, or_false] at he
    rcases he with rfl | rfl
    · exact ⟨by simp, .string _⟩
    · exact ⟨by simp, hoperand⟩
  | _ =>
    obtain rfl := List.mem_singleton.mp he
    exact ⟨by simp [operatorName], hoperand⟩

namespace Filter

theorem Condition.lacksKey_document {c : Condition} (h : c.WellFormed) : c.document.LacksKey "$and" := by
  cases c with
  | equals v => exact v.lacksKey_toJson
  | operators ops =>
    rw [document_operators h]
    refine .ofEntries fun e he => ?_
    obtain ⟨c, -, hwritten⟩ := List.mem_flatMap.mp he
    exact Constraint.lacksKey_of_mem_written hwritten

/-- Only a path can bring the key `$and` into what is written of a base filter. -/
theorem BaseFilter.lacksKey_of_mem_entries {fields : BaseFilter} (h : fields.WellFormed)
    (hpaths : ∀ f ∈ fields, ¬ IsReserved f.path) {e : String × Json} (he : e ∈ entries fields) :
    e.1 ≠ "$and" ∧ e.2.LacksKey "$and" := by
  obtain ⟨f, hf, rfl⟩ := List.mem_map.mp he
  refine ⟨fun heq => hpaths f hf ?_, Condition.lacksKey_document (h.conditions f hf)⟩
  dsimp only at heq
  rw [heq]
  decide

theorem lacksKey_of_mem_groupEntry {key : String} {group : Option (List BaseFilter)} (hkey : key ≠ "$and")
    (hwell : ∀ bases, group = some bases → ∀ base ∈ bases, base.WellFormed)
    (hpaths : ∀ f ∈ (group.getD []).flatten, ¬ IsReserved f.path) {e : String × Json}
    (he : e ∈ groupEntry key group) : e.1 ≠ "$and" ∧ e.2.LacksKey "$and" := by
  obtain ⟨bases, rfl, rfl⟩ := Option.map_eq_some_iff.mp (Option.mem_toList.mp he)
  refine ⟨hkey, ?_⟩
  rw [Expression.memberDocuments_eq (hwell bases rfl)]
  refine .array fun v hv => ?_
  obtain ⟨base, hbase, rfl⟩ := List.mem_map.mp hv
  refine .ofEntries fun e he => BaseFilter.lacksKey_of_mem_entries (hwell bases rfl base hbase) (fun f hf => ?_) he
  exact hpaths f (List.mem_flatten_of_mem hbase hf)

/-! ### Both ways come to the same -/

/-- **The document of a filter that was read from a text is the translation of the object in the text**,
entry by entry, unless a path begins with a dollar sign; and it has no key `$and` anywhere. -/
theorem toDocument_compile_eq_translate {text : String} {e : Expression} (h : read text = .ok e)
    (hpaths : ∀ path ∈ e.paths, ¬ IsReserved path) :
    ∃ entries, Json.parse? text = some (.object entries) ∧
      e.compile.toDocument = translate entries ∧ (translate entries).LacksKey "$and" := by
  have hwell := wellFormed_of_read h
  obtain ⟨entries, hparse, hdenoted⟩ := denotedBy_of_read h
  have hfields (f : FieldFilter) (hf : f ∈ e.fields) : ¬ IsReserved f.path :=
    hpaths _ (List.mem_map_of_mem (List.mem_append_left _ (List.mem_append_left _ hf)))
  have hany (f : FieldFilter) (hf : f ∈ (e.any.getD []).flatten) : ¬ IsReserved f.path :=
    hpaths _ (List.mem_map_of_mem (List.mem_append_left _ (List.mem_append_right _ hf)))
  have hnor (f : FieldFilter) (hf : f ∈ (e.nor.getD []).flatten) : ¬ IsReserved f.path :=
    hpaths _ (List.mem_map_of_mem (List.mem_append_right _ hf))
  have hfree {key : String} (hkey : IsReserved key) : key ∉ e.fields.map (·.path) := by
    intro hmem
    obtain ⟨f, hf, rfl⟩ := List.mem_map.mp hmem
    exact hfields f hf hkey
  have hwritten := Expression.toDocument_compile_eq_object hwell (hfree (by decide)) (hfree (by decide))
  have htranslated : e.compile.toDocument = translate entries := by
    rw [hwritten, translate, BaseFilter.entries_eq_translate hdenoted.fields hwell.fields.conditions,
      groupEntry_eq_translate hdenoted.any hwell.any, groupEntry_eq_translate hdenoted.nor hwell.nor]
  refine ⟨entries, hparse, htranslated, ?_⟩
  rw [← htranslated, hwritten]
  refine .ofEntries fun entry hentry => ?_
  rcases List.mem_append.mp hentry with hentry | hentry
  · rcases List.mem_append.mp hentry with hentry | hentry
    · exact BaseFilter.lacksKey_of_mem_entries hwell.fields hfields hentry
    · exact lacksKey_of_mem_groupEntry (by simp) hwell.any hany hentry
  · exact lacksKey_of_mem_groupEntry (by simp) hwell.nor hnor hentry

/-- A filter in which a group comes first, and a date and a pattern among the operands. -/
def mixedFilter : String :=
  "\x7b\"nor\":[\x7b\"a\":null\x7d],\"name\":\x7b\"like\":\"^\",\"ne\":\"y\"\x7d,\"or\":[\x7b\"b\":2\x7d,\x7b\x7d],"
    ++ "\"born\":\"2000-01-01T00:00:00Z\"\x7d"

theorem toDocument_compile_mixedFilter :
    ∃ e entries, read mixedFilter = .ok e ∧ (∀ path ∈ e.paths, ¬ IsReserved path) ∧
      Json.parse? mixedFilter = some (.object entries) ∧ e.compile.toDocument = translate entries ∧
      translate entries = .object
        [("name", .object [("$options", .string "i"), ("$regex", .string "^"), ("$ne", .string "y")]),
          ("born", .object [("$date", .string "2000-01-01T00:00:00.000Z")]),
          ("$or", .array [.object [("b", .ofInt 2)], .object []]),
          ("$nor", .array [.object [("a", .null)]])] ∧
      (translate entries).LacksKey "$and" := by
  let e : Expression :=
    { fields := [⟨"name", .operators [.like ⟨"^", .look .textStart, rfl⟩, .ne (.string "y")]⟩,
        ⟨"born", .equals (.instant ⟨946684800, 0⟩)⟩]
      any := some [[⟨"b", .equals (.number (.int 2))⟩], []]
      nor := some [[⟨"a", .equals .null⟩]] }
  have hread : read mixedFilter = .ok e := rfl
  have hpaths : ∀ path ∈ e.paths, ¬ IsReserved path := by decide
  obtain ⟨entries, hparse, htranslated, hlacks⟩ := toDocument_compile_eq_translate hread hpaths
  refine ⟨e, entries, hread, hpaths, hparse, htranslated, ?_, hlacks⟩
  rw [← htranslated]
  rfl

end Filter

end Gatehouse

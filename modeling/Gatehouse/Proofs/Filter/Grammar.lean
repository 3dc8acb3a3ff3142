import Gatehouse.Filter.Reader
import Gatehouse.Proofs.Json.Grammar
import Gatehouse.Proofs.Traversal

/-!
# The grammar of filters

Which JSON objects are filters (`Filter.IsFilter`), and which filter each of them denotes
(`Filter.Expression.DenotedBy`), are said without the reader. The reader accepts exactly the texts that spell
such objects (`Json.Spells`), and it lists what they denote (`Filter.read_accepts_grammar`).

## Main results

* `readOperator_eq_ok_iff` .. `readGroup_eq_ok_iff`: each reader answers exactly with what the value
  denotes, one lemma for each level of the grammar.
* `Operator.exists_denotedBy_iff` .. `exists_groupDenotedBy_iff`: a value denotes something exactly if it is
  in the grammar.
* `exists_ofEntries_eq_ok_iff`, `denotedBy_of_ofEntries`: whole objects. The entries are folded into a filter
  that grows at the end, and no key comes twice.

Inside a base filter `or` and `nor` are names of fields like any other. An array under them is refused with
a cause of its own, but no field holds an array anyway.
-/

namespace Gatehouse

/-- A value that is neither an array nor an object. -/
inductive Json.IsScalar : Json → Prop where
  | null : IsScalar .null
  | bool (b : Bool) : IsScalar (.bool b)
  | number (n : Number) : IsScalar (.number n)
  | string (s : String) : IsScalar (.string s)

/-- Exactly the scalars denote operands. -/
theorem Scalar.exists_ofJson?_iff {v : Json} : (∃ x, ofJson? v = some x) ↔ v.IsScalar := by
  constructor
  · rintro ⟨x, hx⟩
    cases v with
    | null => exact .null
    | bool b => exact .bool b
    | number n => exact .number n
    | string s => exact .string s
    | array items => exact absurd hx (by simp [ofJson?])
    | object entries => exact absurd hx (by simp [ofJson?])
  · intro h
    cases h with
    | null => exact ⟨.null, rfl⟩
    | bool b => exact ⟨.bool b, rfl⟩
    | number n => exact ⟨.number n, rfl⟩
    | string s => exact ⟨_, rfl⟩

/-- A text denotes an operand of `like` exactly if it denotes a pattern. -/
theorem Like.ofText?_eq_some_iff {text : String} {l : Like} : ofText? text = some l ↔ l.source = text := by
  constructor
  · intro h
    rw [ofText?] at h
    split at h
    · obtain rfl := Option.some.inj h
      rfl
    · exact absurd h (by simp)
  · rintro rfl
    exact l.ofText?_source

namespace Filter

/-! ### The grammar -/

/-- The names of the operators with a list of operands. -/
def listOperators : List String := ["in", "nin"]

/-- The names of the operators that compare with one operand. -/
def comparisons : List String := ["ne", "gt", "gte", "lt", "lte"]

/-- An entry of a map of operators: a name with an operand that suits it. -/
inductive IsOperator : String × Json → Prop where
  | list {name : String} {items : List Json} (hname : name ∈ listOperators)
      (hitems : ∀ v ∈ items, v.IsScalar) : IsOperator (name, .array items)
  | comparison {name : String} {v : Json} (hname : name ∈ comparisons) (hv : v.IsScalar) :
      IsOperator (name, v)
  | like {text : String} {p : Pattern} (hpattern : Pattern.compile? text = some p) :
      IsOperator ("like", .string text)

/-- What may stand under the path of a field: a scalar, or a map with at least one operator. -/
inductive IsCondition : Json → Prop where
  | scalar {v : Json} (h : v.IsScalar) : IsCondition v
  | operators {entries : Json.Entries} (hne : entries ≠ []) (h : ∀ e ∈ entries, IsOperator e) :
      IsCondition (.object entries)

/-- A base filter: an object whose entries are all fields. -/
inductive IsBase : Json → Prop where
  | object {entries : Json.Entries} (h : ∀ e ∈ entries, IsCondition e.2) : IsBase (.object entries)

/-- A group: an array with at least one base filter. -/
inductive IsGroup : Json → Prop where
  | array {items : List Json} (hne : items ≠ []) (h : ∀ v ∈ items, IsBase v) : IsGroup (.array items)

/-- An entry of the filter object: a group under one of the two keys of groups, a field under any other. -/
def IsEntry (entry : String × Json) : Prop :=
  if entry.1 = orKey ∨ entry.1 = norKey then IsGroup entry.2 else IsCondition entry.2

/-- The entries of a filter object. -/
def IsFilter (entries : Json.Entries) : Prop := ∀ e ∈ entries, IsEntry e

/-! ### What the grammar denotes -/

/-- The operands that some values denote, in order. -/
def DenoteScalars : List Json → List Scalar → Prop := List.Forall₂ fun v x => Scalar.ofJson? v = some x

/-- The operator that an entry of a map denotes. -/
inductive Operator.DenotedBy : String × Json → Operator → Prop where
  | oneOf {items : List Json} {xs : List Scalar} (h : DenoteScalars items xs) :
      DenotedBy ("in", .array items) (.oneOf xs)
  | noneOf {items : List Json} {xs : List Scalar} (h : DenoteScalars items xs) :
      DenotedBy ("nin", .array items) (.noneOf xs)
  | ne {v : Json} {x : Scalar} (h : Scalar.ofJson? v = some x) : DenotedBy ("ne", v) (.ne x)
  | gt {v : Json} {x : Scalar} (h : Scalar.ofJson? v = some x) : DenotedBy ("gt", v) (.gt x)
  | gte {v : Json} {x : Scalar} (h : Scalar.ofJson? v = some x) : DenotedBy ("gte", v) (.gte x)
  | lt {v : Json} {x : Scalar} (h : Scalar.ofJson? v = some x) : DenotedBy ("lt", v) (.lt x)
  | lte {v : Json} {x : Scalar} (h : Scalar.ofJson? v = some x) : DenotedBy ("lte", v) (.lte x)
  | like (l : Like) : DenotedBy ("like", .string l.source) (.like l)

/-- The condition that a value denotes: a scalar is a literal, a map lists its operators in order. -/
inductive Condition.DenotedBy : Json → Condition → Prop where
  | equals {v : Json} {x : Scalar} (h : Scalar.ofJson? v = some x) : DenotedBy v (.equals x)
  | operators {entries : Json.Entries} {ops : List Operator} (hne : entries ≠ [])
      (h : List.Forall₂ Operator.DenotedBy entries ops) : DenotedBy (.object entries) (.operators ops)

/-- The field that an entry denotes. -/
structure FieldFilter.DenotedBy (entry : String × Json) (f : FieldFilter) : Prop where
  path : f.path = entry.1
  condition : f.condition.DenotedBy entry.2

/-- The base filter that an object denotes: its fields in order. -/
inductive BaseFilter.DenotedBy : Json → BaseFilter → Prop where
  | object {entries : Json.Entries} {fields : BaseFilter}
      (h : List.Forall₂ FieldFilter.DenotedBy entries fields) : DenotedBy (.object entries) fields

/-- The group that is denoted by what stands under its key, if anything does: its base filters in
order. -/
inductive GroupDenotedBy : Option Json → Option (List BaseFilter) → Prop where
  | absent : GroupDenotedBy none none
  | array {items : List Json} {bases : List BaseFilter} (hne : items ≠ [])
      (h : List.Forall₂ BaseFilter.DenotedBy items bases) :
      GroupDenotedBy (some (.array items)) (some bases)

/-- The key is that of a group. -/
def isGroupKey (key : String) : Bool := key = orKey || key = norKey

/-- The filter that an object denotes: its fields in order, and its groups wherever they stand. -/
structure Expression.DenotedBy (entries : Json.Entries) (e : Expression) : Prop where
  fields : List.Forall₂ FieldFilter.DenotedBy (entries.filter fun entry => !isGroupKey entry.1) e.fields
  any : GroupDenotedBy (Assoc.get? orKey entries) e.any
  nor : GroupDenotedBy (Assoc.get? norKey entries) e.nor

/-! ### The readers answer with what is denoted -/

theorem readScalar_eq_ok_iff {name : String} {v : Json} {x : Scalar} :
    readScalar name v = .ok x ↔ Scalar.ofJson? v = some x := by
  rw [readScalar]
  cases Scalar.ofJson? v with
  | none => simp
  | some y => simp

theorem readScalars_eq_ok_iff {name : String} {v : Json} {xs : List Scalar} :
    readScalars name v = .ok xs ↔ ∃ items, v = .array items ∧ DenoteScalars items xs := by
  cases v with
  | array items =>
    have hread : readScalars name (.array items) = items.mapM (readScalar name) := rfl
    rw [hread, mapM_eq_ok_iff]
    simp only [readScalar_eq_ok_iff]
    exact ⟨fun h => ⟨items, rfl, h⟩, fun ⟨_, hitems, h⟩ => Json.array.inj hitems ▸ h⟩
  | _ => simp [readScalars]

theorem readLike_eq_ok_iff {name : String} {v : Json} {l : Like} :
    readLike name v = .ok l ↔ v = .string l.source := by
  cases v with
  | string text =>
    rw [Json.string.injEq, eq_comm (a := text), ← Like.ofText?_eq_some_iff, readLike]
    cases Like.ofText? text with
    | none => simp
    | some l' => simp
  | _ => simp [readLike]

/-- **An operator is read exactly from an entry that denotes it.** -/
theorem readOperator_eq_ok_iff {entry : String × Json} {op : Operator} :
    readOperator entry = .ok op ↔ op.DenotedBy entry := by
  obtain ⟨name, v⟩ := entry
  constructor
  · intro h
    unfold readOperator at h
    dsimp only at h
    split at h
    case h_9 => exact absurd h (by simp)
    case h_1 =>
      obtain ⟨xs, hxs, rfl⟩ := map_eq_ok_iff.mp h
      obtain ⟨items, rfl, hitems⟩ := readScalars_eq_ok_iff.mp hxs
      exact .oneOf hitems
    case h_2 =>
      obtain ⟨xs, hxs, rfl⟩ := map_eq_ok_iff.mp h
      obtain ⟨items, rfl, hitems⟩ := readScalars_eq_ok_iff.mp hxs
      exact .noneOf hitems
    case h_8 =>
      obtain ⟨l, hl, rfl⟩ := map_eq_ok_iff.mp h
      obtain rfl := readLike_eq_ok_iff.mp hl
      exact .like l
    all_goals
      obtain ⟨x, hx, rfl⟩ := map_eq_ok_iff.mp h
      have hdenoted := readScalar_eq_ok_iff.mp hx
      constructor
      exact hdenoted
  · intro h
    cases h with
    | oneOf hitems | noneOf hitems =>
      exact map_eq_ok_iff.mpr ⟨_, readScalars_eq_ok_iff.mpr ⟨_, rfl, hitems⟩, rfl⟩
    | like l => exact map_eq_ok_iff.mpr ⟨l, readLike_eq_ok_iff.mpr rfl, rfl⟩
    | ne hx | gt hx | gte hx | lt hx | lte hx =>
      exact map_eq_ok_iff.mpr ⟨_, readScalar_eq_ok_iff.mpr hx, rfl⟩

theorem readCondition_eq_ok_iff {path : String} {v : Json} {c : Condition} :
    readCondition path v = .ok c ↔ c.DenotedBy v := by
  constructor
  · intro h
    unfold readCondition at h
    split at h
    case h_1 => exact absurd h (by simp)
    case h_2 entries hne =>
      obtain ⟨ops, hops, rfl⟩ := map_eq_ok_iff.mp h
      refine .operators hne ?_
      simpa only [readOperator_eq_ok_iff] using mapM_eq_ok_iff.mp hops
    case h_3 =>
      split at h
      next x hx =>
        obtain rfl := Except.ok.inj h
        exact .equals hx
      · exact absurd h (by simp)
  · intro h
    cases h with
    | @equals v x hx =>
      cases v with
      | array _ | object _ => exact absurd hx (by simp [Scalar.ofJson?])
      | _ => simp only [readCondition, hx]
    | @operators entries ops hne hops =>
      cases entries with
      | nil => exact absurd rfl hne
      | cons entry entries =>
        refine map_eq_ok_iff.mpr ⟨ops, mapM_eq_ok_iff.mpr ?_, rfl⟩
        simpa only [readOperator_eq_ok_iff] using hops

theorem readField_eq_ok_iff {entry : String × Json} {f : FieldFilter} :
    readField entry = .ok f ↔ f.DenotedBy entry := by
  rw [readField, map_eq_ok_iff]
  constructor
  · rintro ⟨c, hc, rfl⟩
    exact ⟨rfl, readCondition_eq_ok_iff.mp hc⟩
  · rintro ⟨hpath, hcondition⟩
    exact ⟨f.condition, readCondition_eq_ok_iff.mpr hcondition, by rw [← hpath]⟩

/-- Inside a base filter the keys of groups are read as names of fields: an array would be refused there,
too, only for another cause. -/
theorem readMember_eq_ok_iff {entry : String × Json} {f : FieldFilter} :
    readMember entry = .ok f ↔ f.DenotedBy entry := by
  rw [← readField_eq_ok_iff]
  unfold readMember
  split
  next key items =>
    split
    · have hrefused : readField (key, .array items) = .error (.nonScalar key) := rfl
      rw [hrefused]
      simp
    · rfl
  · rfl

theorem readBase_eq_ok_iff {name : String} {v : Json} {base : BaseFilter} :
    readBase name v = .ok base ↔ base.DenotedBy v := by
  cases v with
  | object entries =>
    have hread : readBase name (.object entries) = entries.mapM readMember := rfl
    rw [hread, mapM_eq_ok_iff]
    simp only [readMember_eq_ok_iff]
    exact ⟨.object, fun | .object h => h⟩
  | _ => exact ⟨nofun, nofun⟩

theorem readGroup_eq_ok_iff {name : String} {v : Json} {bases : List BaseFilter} :
    readGroup name v = .ok bases ↔ GroupDenotedBy (some v) (some bases) := by
  cases v with
  | array items =>
    cases items with
    | nil => exact ⟨nofun, fun | .array hne _ => absurd rfl hne⟩
    | cons item items =>
      have hread : readGroup name (.array (item :: items)) = (item :: items).mapM (readBase name) := rfl
      rw [hread, mapM_eq_ok_iff]
      simp only [readBase_eq_ok_iff]
      exact ⟨.array (List.cons_ne_nil _ _), fun | .array _ h => h⟩
  | _ => exact ⟨nofun, nofun⟩

/-! ### What is in the grammar denotes something -/

theorem exists_denoteScalars_iff {items : List Json} :
    (∃ xs, DenoteScalars items xs) ↔ ∀ v ∈ items, v.IsScalar := by
  rw [← forall₂_congr fun v _ => Scalar.exists_ofJson?_iff]
  exact exists_forall₂_iff

theorem Operator.exists_denotedBy_iff {entry : String × Json} :
    (∃ op : Operator, op.DenotedBy entry) ↔ IsOperator entry := by
  constructor
  · rintro ⟨op, hop⟩
    cases hop with
    | oneOf h => exact .list (by decide) (exists_denoteScalars_iff.mp ⟨_, h⟩)
    | noneOf h => exact .list (by decide) (exists_denoteScalars_iff.mp ⟨_, h⟩)
    | ne h => exact .comparison (by decide) (Scalar.exists_ofJson?_iff.mp ⟨_, h⟩)
    | gt h => exact .comparison (by decide) (Scalar.exists_ofJson?_iff.mp ⟨_, h⟩)
    | gte h => exact .comparison (by decide) (Scalar.exists_ofJson?_iff.mp ⟨_, h⟩)
    | lt h => exact .comparison (by decide) (Scalar.exists_ofJson?_iff.mp ⟨_, h⟩)
    | lte h => exact .comparison (by decide) (Scalar.exists_ofJson?_iff.mp ⟨_, h⟩)
    | like l => exact .like l.compiled
  · intro h
    cases h with
    | list hname hitems =>
      obtain ⟨xs, hxs⟩ := exists_denoteScalars_iff.mpr hitems
      simp only [listOperators, List.mem_cons, List.not_mem_nil, or_false] at hname
      rcases hname with rfl | rfl
      · exact ⟨_, .oneOf hxs⟩
      · exact ⟨_, .noneOf hxs⟩
    | comparison hname hv =>
      obtain ⟨x, hx⟩ := Scalar.exists_ofJson?_iff.mpr hv
      simp only [comparisons, List.mem_cons, List.not_mem_nil, or_false] at hname
      rcases hname with rfl | rfl | rfl | rfl | rfl
      · exact ⟨_, .ne hx⟩
      · exact ⟨_, .gt hx⟩
      · exact ⟨_, .gte hx⟩
      · exact ⟨_, .lt hx⟩
      · exact ⟨_, .lte hx⟩
    | like hpattern => exact ⟨_, .like ⟨_, _, hpattern⟩⟩

theorem Condition.exists_denotedBy_iff {v : Json} :
    (∃ c : Condition, c.DenotedBy v) ↔ IsCondition v := by
  constructor
  · rintro ⟨c, hc⟩
    cases hc with
    | equals h => exact .scalar (Scalar.exists_ofJson?_iff.mp ⟨_, h⟩)
    | operators hne h =>
      refine .operators hne fun e he => ?_
      exact Operator.exists_denotedBy_iff.mp (exists_forall₂_iff.mp ⟨_, h⟩ e he)
  · intro h
    cases h with
    | scalar h =>
      obtain ⟨x, hx⟩ := Scalar.exists_ofJson?_iff.mpr h
      exact ⟨_, .equals hx⟩
    | operators hne h =>
      obtain ⟨ops, hops⟩ := exists_forall₂_iff.mpr fun e he => Operator.exists_denotedBy_iff.mpr (h e he)
      exact ⟨_, .operators hne hops⟩

theorem FieldFilter.exists_denotedBy_iff {entry : String × Json} :
    (∃ f : FieldFilter, f.DenotedBy entry) ↔ IsCondition entry.2 := by
  rw [← Condition.exists_denotedBy_iff]
  constructor
  · rintro ⟨f, -, hcondition⟩
    exact ⟨f.condition, hcondition⟩
  · rintro ⟨c, hc⟩
    exact ⟨⟨entry.1, c⟩, rfl, hc⟩

theorem BaseFilter.exists_denotedBy_iff {v : Json} :
    (∃ base : BaseFilter, base.DenotedBy v) ↔ IsBase v := by
  constructor
  · rintro ⟨base, ⟨h⟩⟩
    exact .object fun e he => FieldFilter.exists_denotedBy_iff.mp (exists_forall₂_iff.mp ⟨_, h⟩ e he)
  · rintro ⟨h⟩
    obtain ⟨fields, hfields⟩ := exists_forall₂_iff.mpr fun e he =>
      FieldFilter.exists_denotedBy_iff.mpr (h e he)
    exact ⟨fields, .object hfields⟩

theorem exists_groupDenotedBy_iff {v : Json} :
    (∃ bases, GroupDenotedBy (some v) (some bases)) ↔ IsGroup v := by
  constructor
  · rintro ⟨bases, hbases⟩
    cases hbases with
    | array hne h =>
      refine .array hne fun v hv => ?_
      exact BaseFilter.exists_denotedBy_iff.mp (exists_forall₂_iff.mp ⟨_, h⟩ v hv)
  · rintro ⟨hne, h⟩
    obtain ⟨bases, hbases⟩ := exists_forall₂_iff.mpr fun v hv =>
      BaseFilter.exists_denotedBy_iff.mpr (h v hv)
    exact ⟨bases, .array hne hbases⟩

/-! ### Objects entry by entry -/

/-- Whether an entry is accepted does not depend on what was read before it. -/
theorem exists_readEntry_eq_ok_iff (e : Expression) (entry : String × Json) :
    (∃ e', readEntry e entry = .ok e') ↔ IsEntry entry := by
  have hgroup (name : String) : (∃ bases, readGroup name entry.2 = .ok bases) ↔ IsGroup entry.2 := by
    simp only [readGroup_eq_ok_iff]
    exact exists_groupDenotedBy_iff
  have hfield : (∃ f, readField entry = .ok f) ↔ IsCondition entry.2 := by
    simp only [readField_eq_ok_iff]
    exact FieldFilter.exists_denotedBy_iff
  unfold readEntry IsEntry
  by_cases hor : entry.1 = orKey
  · rw [if_pos hor, if_pos (.inl hor), exists_map_eq_ok_iff, hgroup]
  · rw [if_neg hor]
    by_cases hnor : entry.1 = norKey
    · rw [if_pos hnor, if_pos (.inr hnor), exists_map_eq_ok_iff, hgroup]
    · rw [if_neg hnor, if_neg fun h => h.elim hor hnor, exists_map_eq_ok_iff, hfield]

/-- **Exactly the objects in the grammar are read.** -/
theorem exists_ofEntries_eq_ok_iff {entries : Json.Entries} :
    (∃ e, ofEntries entries = .ok e) ↔ IsFilter entries :=
  exists_foldlM_eq_ok_iff exists_readEntry_eq_ok_iff

/-- A filter with the fields of another after its own, and with the groups of the other in the place of
its own. -/
def Expression.extend (e other : Expression) : Expression :=
  ⟨e.fields ++ other.fields, other.any.or e.any, other.nor.or e.nor⟩

theorem Expression.extend_assoc (a b c : Expression) : (a.extend b).extend c = a.extend (b.extend c) := by
  simp [extend, Option.or_assoc]

theorem isGroupKey_iff {key : String} : isGroupKey key = true ↔ key = orKey ∨ key = norKey := by
  rw [isGroupKey, Bool.or_eq_true, decide_eq_true_eq, decide_eq_true_eq]

/-- An entry is read into a filter by what it denotes on its own. -/
theorem denotedBy_of_readEntry {e e' : Expression} {entry : String × Json} (h : readEntry e entry = .ok e') :
    ∃ first, Expression.DenotedBy [entry] first ∧ e' = e.extend first := by
  obtain ⟨key, v⟩ := entry
  unfold readEntry at h
  split at h
  next hor =>
    obtain rfl : key = orKey := hor
    obtain ⟨bases, hbases, rfl⟩ := map_eq_ok_iff.mp h
    refine ⟨⟨[], some bases, none⟩, ⟨.nil, readGroup_eq_ok_iff.mp hbases, .absent⟩, ?_⟩
    simp [Expression.extend]
  next hor =>
  split at h
  next hnor =>
    obtain rfl : key = norKey := hnor
    obtain ⟨bases, hbases, rfl⟩ := map_eq_ok_iff.mp h
    refine ⟨⟨[], none, some bases⟩, ⟨.nil, .absent, readGroup_eq_ok_iff.mp hbases⟩, ?_⟩
    simp [Expression.extend]
  next hnor =>
    obtain ⟨f, hf, rfl⟩ := map_eq_ok_iff.mp h
    have hkey : isGroupKey key = false :=
      Bool.eq_false_iff.mpr fun h => (isGroupKey_iff.mp h).elim hor hnor
    have habsent {name : String} (hne : key ≠ name) : Assoc.get? name [(key, v)] = none := by
      rw [Assoc.get?, if_neg hne, Assoc.get?]
    refine ⟨⟨[f], none, none⟩, ⟨?_, ?_, ?_⟩, ?_⟩
    · simpa [hkey] using readField_eq_ok_iff.mp hf
    · rw [habsent hor]
      exact .absent
    · rw [habsent hnor]
      exact .absent
    · simp [Expression.extend]

/-- What stands under a key in an object of which the first entry is taken apart: the keys are distinct,
so it is in the first entry or in the others. -/
theorem GroupDenotedBy.cons {key : String} {entry : String × Json} {entries : Json.Entries}
    {first rest : Option (List BaseFilter)} (hnew : entry.1 ∉ entries.map (·.1))
    (hfirst : GroupDenotedBy (Assoc.get? key [entry]) first)
    (hrest : GroupDenotedBy (Assoc.get? key entries) rest) :
    GroupDenotedBy (Assoc.get? key (entry :: entries)) (rest.or first) := by
  obtain ⟨k, v⟩ := entry
  rw [Assoc.get?]
  rw [Assoc.get?] at hfirst
  by_cases hk : k = key
  · have hmissing : Assoc.get? key entries = none := by
      have hkey := Assoc.hasKey_eq_false_iff.mpr hnew
      rwa [hk, Assoc.hasKey, Option.isSome_eq_false_iff, Option.isNone_iff_eq_none] at hkey
    rw [hmissing] at hrest
    rw [if_pos hk] at hfirst ⊢
    cases hrest
    exact hfirst
  · rw [if_neg hk] at hfirst ⊢
    cases hfirst
    rwa [Option.or_none]

/-- The first entry of an object, and then the others. -/
theorem Expression.DenotedBy.cons {entry : String × Json} {entries : Json.Entries}
    {first rest : Expression} (hnew : entry.1 ∉ entries.map (·.1))
    (hfirst : DenotedBy [entry] first) (hrest : DenotedBy entries rest) :
    DenotedBy (entry :: entries) (first.extend rest) where
  fields := by
    have happend := List.rel_append hfirst.fields hrest.fields
    dsimp only at happend
    rwa [← List.filter_append] at happend
  any := .cons hnew hfirst.any hrest.any
  nor := .cons hnew hfirst.nor hrest.nor

/-- Entries that were read into a filter denote what was added to it. -/
theorem denotedBy_of_foldlM {e e' : Expression} {entries : Json.Entries}
    (hkeys : (entries.map (·.1)).Nodup) (h : entries.foldlM readEntry e = .ok e') :
    ∃ rest, Expression.DenotedBy entries rest ∧ e' = e.extend rest := by
  induction entries generalizing e with
  | nil =>
    obtain rfl := Except.ok.inj h
    refine ⟨{}, ⟨.nil, .absent, .absent⟩, ?_⟩
    simp [Expression.extend]
  | cons entry entries ih =>
    rw [List.map_cons, List.nodup_cons] at hkeys
    obtain ⟨next, hnext, hrest⟩ := bind_eq_ok_iff.mp h
    obtain ⟨first, hfirst, rfl⟩ := denotedBy_of_readEntry hnext
    obtain ⟨rest, hdenoted, rfl⟩ := ih hkeys.2 hrest
    exact ⟨first.extend rest, .cons hkeys.1 hfirst hdenoted, Expression.extend_assoc ..⟩

/-- **What is read from an object is what it denotes.** -/
theorem denotedBy_of_ofEntries {e : Expression} {entries : Json.Entries}
    (hkeys : (entries.map (·.1)).Nodup) (h : ofEntries entries = .ok e) :
    Expression.DenotedBy entries e := by
  obtain ⟨rest, hdenoted, rfl⟩ := denotedBy_of_foldlM hkeys h
  have hempty : Expression.extend {} rest = rest := by simp [Expression.extend]
  rwa [hempty]

/-! ### Texts -/

theorem readObject_eq_ok_iff {parameter text : String} {entries : Json.Entries} :
    readObject parameter text = .ok entries ↔ Json.parse? text = some (.object entries) := by
  rw [readObject]
  rcases Json.parse? text with _ | (_ | _ | _ | _ | _ | _) <;> simp

/-- A filter is read from a text by reading the entries of the object in the text. -/
theorem read_eq_ok_iff {text : String} {e : Expression} :
    read text = .ok e ↔ ∃ entries, Json.parse? text = some (.object entries) ∧ ofEntries entries = .ok e := by
  simp only [read, bind_eq_ok_iff, readObject_eq_ok_iff]

/-- What is read from a text is what the object in the text denotes. -/
theorem denotedBy_of_read {text : String} {e : Expression} (h : read text = .ok e) :
    ∃ entries, Json.parse? text = some (.object entries) ∧ e.DenotedBy entries := by
  obtain ⟨entries, hparse, hread⟩ := read_eq_ok_iff.mp h
  cases Json.distinctKeys_of_parse? hparse with
  | object hkeys _ => exact ⟨entries, hparse, denotedBy_of_ofEntries hkeys hread⟩

/-- **A text is accepted exactly if it spells an object in the grammar of filters, and what is read from it
lists just what the object denotes**: its fields, operators, operands and base filters, in the order of the
object. Where a key of the text comes again, the object has it in its first place and with its last value
(`Json.Spells`). -/
theorem read_accepts_grammar (text : String) :
    ((∃ e, read text = .ok e) ↔
      ∃ entries, Json.Spells Json.depthLimit (Json.Token.ofText text) (.object entries) ∧ IsFilter entries) ∧
    ∀ e, read text = .ok e →
      ∃ entries, Json.Spells Json.depthLimit (Json.Token.ofText text) (.object entries) ∧ e.DenotedBy entries := by
  simp only [← Json.parse?_eq_some_iff]
  refine ⟨?_, fun e => denotedBy_of_read⟩
  simp only [read_eq_ok_iff, ← exists_ofEntries_eq_ok_iff]
  constructor
  · rintro ⟨e, entries, hparse, hread⟩
    exact ⟨entries, hparse, e, hread⟩
  · rintro ⟨entries, hparse, e, hread⟩
    exact ⟨e, entries, hparse, hread⟩

/-- A filter in which a key comes twice. -/
def repeatedKey : String :=
  "\x7b\"a\":\x7b\"gt\":1\x7d,\"or\":[\x7b\"or\":2\x7d],\"b\":true,\"a\":\x7b\"in\":[null]\x7d\x7d"

/-- A key that comes twice keeps its first place and its last value, and inside a base filter `or` is a field
like any other. -/
theorem read_accepts_repeatedKey :
    ∃ e entries, read repeatedKey = .ok e ∧ e.fields.map (·.path) = ["a", "b"] ∧
      Json.Spells Json.depthLimit (Json.Token.ofText repeatedKey) (.object entries) ∧ IsFilter entries ∧
      e.DenotedBy entries := by
  let e : Expression :=
    { fields := [⟨"a", .operators [.oneOf [.null]]⟩, ⟨"b", .equals (.bool true)⟩]
      any := some [[⟨"or", .equals (.number (.int 2))⟩]] }
  have hread : read repeatedKey = .ok e := rfl
  obtain ⟨haccepted, hdenoted⟩ := read_accepts_grammar repeatedKey
  obtain ⟨entries, hspells, hfilter⟩ := haccepted.mp ⟨e, hread⟩
  obtain ⟨entries', hspells', hentries⟩ := hdenoted e hread
  obtain ⟨⟩ := (Json.parse?_eq_some_iff.mpr hspells).symm.trans (Json.parse?_eq_some_iff.mpr hspells')
  exact ⟨e, entries, hread, rfl, hspells, hfilter, hentries⟩

end Filter

end Gatehouse

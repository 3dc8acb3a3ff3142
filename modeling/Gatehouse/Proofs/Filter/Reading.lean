import Gatehouse.Filter.Document
import Gatehouse.Filter.Reader
import Gatehouse.Proofs.Json.Grammar
import Gatehouse.Proofs.Traversal

/-!
# What a read filter looks like

A filter that was read from a text is well formed (`Filter.wellFormed_of_read`): among its conditions, and
among those of each base filter, a path stands once; and a list of operators is not empty and has each
operator once. The keys of a JSON object are distinct, and a reader keeps each key: as the path of a
condition, or as the name of an operator.
-/

namespace Gatehouse.Filter

/-! ### Well-formed filters -/

/-- The name of an operator in the text of a filter. -/
def Operator.name : Operator → String
  | .oneOf _ => "in"
  | .noneOf _ => "nin"
  | .ne _ => "ne"
  | .gt _ => "gt"
  | .gte _ => "gte"
  | .lt _ => "lt"
  | .lte _ => "lte"
  | .like _ => "like"

/-- A list of operators has some operator, and none twice. -/
def Condition.WellFormed : Condition → Prop
  | .equals _ => True
  | .operators ops => ops ≠ [] ∧ (ops.map Operator.name).Nodup

/-- No path stands twice, and every condition is well formed. -/
structure BaseFilter.WellFormed (fields : BaseFilter) : Prop where
  paths : (fields.map (·.path)).Nodup
  conditions : ∀ f ∈ fields, f.condition.WellFormed

/-- The conditions of a filter are well formed, and so is every base filter of its groups. -/
structure Expression.WellFormed (e : Expression) : Prop where
  fields : BaseFilter.WellFormed e.fields
  any : ∀ bases, e.any = some bases → ∀ base ∈ bases, BaseFilter.WellFormed base
  nor : ∀ bases, e.nor = some bases → ∀ base ∈ bases, BaseFilter.WellFormed base

theorem BaseFilter.WellFormed.nil : BaseFilter.WellFormed [] where
  paths := List.nodup_nil
  conditions _ hf := absurd hf List.not_mem_nil

/-! ### Conditions -/

/-- An operator is read under its name. -/
theorem name_of_readOperator {entry : String × Json} {op : Operator} (h : readOperator entry = .ok op) :
    op.name = entry.1 := by
  obtain ⟨key, v⟩ := entry
  unfold readOperator at h
  dsimp only at h
  split at h
  case h_9 => exact absurd h (by simp)
  all_goals
    obtain ⟨operand, -, rfl⟩ := map_eq_ok_iff.mp h
    rfl

theorem wellFormed_of_readCondition {path : String} {v : Json} {c : Condition} (hv : v.DistinctKeys)
    (h : readCondition path v = .ok c) : c.WellFormed := by
  unfold readCondition at h
  split at h
  case h_1 => exact absurd h (by simp)
  case h_2 entries hne =>
    obtain ⟨ops, hops, rfl⟩ := map_eq_ok_iff.mp h
    have hnames : ops.map Operator.name = entries.map (·.1) :=
      map_of_mapM_ok (fun _ _ => name_of_readOperator) hops
    refine ⟨?_, ?_⟩
    · rintro rfl
      exact hne (List.map_eq_nil_iff.mp hnames.symm)
    · cases hv with
      | object hkeys _ => rwa [hnames]
  case h_3 =>
    split at h
    · obtain ⟨⟩ := h
      exact trivial
    · exact absurd h (by simp)

/-! ### Fields -/

theorem of_readField {entry : String × Json} {f : FieldFilter} (h : readField entry = .ok f) :
    f.path = entry.1 ∧ (entry.2.DistinctKeys → f.condition.WellFormed) := by
  obtain ⟨c, hc, rfl⟩ := map_eq_ok_iff.mp h
  exact ⟨rfl, fun hv => wellFormed_of_readCondition hv hc⟩

theorem of_readMember {entry : String × Json} {f : FieldFilter} (h : readMember entry = .ok f) :
    f.path = entry.1 ∧ (entry.2.DistinctKeys → f.condition.WellFormed) := by
  unfold readMember at h
  split at h
  · split at h
    · exact absurd h (by simp)
    · exact of_readField h
  · exact of_readField h

/-! ### Groups -/

theorem wellFormed_of_readBase {name : String} {v : Json} {base : BaseFilter} (hv : v.DistinctKeys)
    (h : readBase name v = .ok base) : base.WellFormed := by
  cases hv with
  | object hkeys hvalues =>
    have hpaths := map_of_mapM_ok (fun _ _ hf => (of_readMember hf).1) h
    refine ⟨by rwa [hpaths], fun f hf => ?_⟩
    obtain ⟨entry, hentry, hread⟩ := exists_of_mem_mapM_ok h hf
    exact (of_readMember hread).2 (hvalues entry hentry)
  | _ => exact absurd h (by simp [readBase])

theorem wellFormed_of_readGroup {name : String} {v : Json} {bases : List BaseFilter} (hv : v.DistinctKeys)
    (h : readGroup name v = .ok bases) : ∀ base ∈ bases, base.WellFormed := by
  intro base hbase
  cases hv with
  | array hitems =>
    unfold readGroup at h
    split at h
    · exact absurd h (by simp)
    next items _ hitem =>
      obtain ⟨⟩ := hitem
      obtain ⟨item, hmem, hread⟩ := exists_of_mem_mapM_ok h hbase
      exact wellFormed_of_readBase (hitems item hmem) hread
    · exact absurd h (by simp)
  | _ => exact absurd h (by simp [readGroup])

/-! ### Whole filters -/

/-- One entry of the filter object, whose key is no path so far. -/
theorem Expression.WellFormed.readEntry {e e' : Expression} {entry : String × Json} (he : e.WellFormed)
    (hnew : entry.1 ∉ e.fields.map (·.path)) (hv : entry.2.DistinctKeys)
    (h : Filter.readEntry e entry = .ok e') :
    e'.WellFormed ∧ ∀ path ∈ e'.fields.map (·.path), path = entry.1 ∨ path ∈ e.fields.map (·.path) := by
  unfold Filter.readEntry at h
  split at h
  next =>
    obtain ⟨group, hgroup, rfl⟩ := map_eq_ok_iff.mp h
    refine ⟨⟨he.fields, ?_, he.nor⟩, fun _ => .inr⟩
    rintro bases ⟨⟩
    exact wellFormed_of_readGroup hv hgroup
  next =>
    split at h
    next =>
      obtain ⟨group, hgroup, rfl⟩ := map_eq_ok_iff.mp h
      refine ⟨⟨he.fields, he.any, ?_⟩, fun _ => .inr⟩
      rintro bases ⟨⟩
      exact wellFormed_of_readGroup hv hgroup
    next =>
      obtain ⟨f, hf, rfl⟩ := map_eq_ok_iff.mp h
      obtain ⟨hpath, hcondition⟩ := of_readField hf
      refine ⟨⟨⟨?_, fun g hg => ?_⟩, he.any, he.nor⟩, fun path hmem => ?_⟩
      · rw [List.map_append, List.map_cons, List.map_nil, hpath]
        exact List.nodup_append.mpr ⟨he.fields.paths, by simp, by
          rintro path hmem _ hsingle rfl
          exact hnew (List.mem_singleton.mp hsingle ▸ hmem)⟩
      · obtain hold | hlast := List.mem_append.mp hg
        · exact he.fields.conditions g hold
        · exact List.mem_singleton.mp hlast ▸ hcondition hv
      · rw [List.map_append, List.map_cons, List.map_nil, hpath] at hmem
        obtain hold | hlast := List.mem_append.mp hmem
        · exact .inr hold
        · exact .inl (List.mem_singleton.mp hlast)

/-- Entries one after the other: none of their keys is a path so far. -/
theorem Expression.WellFormed.foldlM {e e' : Expression} {entries : Json.Entries} (he : e.WellFormed)
    (hnew : ∀ key ∈ entries.map (·.1), key ∉ e.fields.map (·.path))
    (hkeys : (entries.map (·.1)).Nodup) (hvalues : ∀ entry ∈ entries, entry.2.DistinctKeys)
    (h : entries.foldlM Filter.readEntry e = .ok e') : e'.WellFormed := by
  induction entries generalizing e with
  | nil =>
    obtain ⟨⟩ := h
    exact he
  | cons entry rest ih =>
    obtain ⟨next, hnext, hrest⟩ := bind_eq_ok_iff.mp h
    rw [List.map_cons, List.nodup_cons] at hkeys
    obtain ⟨hwell, hpaths⟩ := he.readEntry (hnew entry.1 List.mem_cons_self)
      (hvalues entry List.mem_cons_self) hnext
    refine ih hwell (fun key hkey hmem => ?_) hkeys.2
      (fun entry' hmem => hvalues entry' (List.mem_cons_of_mem _ hmem)) hrest
    obtain rfl | hold := hpaths key hmem
    · exact hkeys.1 hkey
    · exact hnew key (List.mem_cons_of_mem _ hkey) hold

/-- **A filter that was read from a text is well formed.** -/
theorem wellFormed_of_read {text : String} {e : Expression} (h : read text = .ok e) : e.WellFormed := by
  obtain ⟨entries, hentries, hread⟩ := bind_eq_ok_iff.mp h
  have hparse : Json.parse? text = some (.object entries) := by
    unfold readObject at hentries
    split at hentries
    · exact absurd hentries (by simp)
    next hparse =>
      obtain ⟨⟩ := hentries
      exact hparse
    · exact absurd hentries (by simp)
  cases Json.distinctKeys_of_parse? hparse with
  | object hkeys hvalues =>
    have hempty : Expression.WellFormed {} := ⟨.nil, by simp, by simp⟩
    exact hempty.foldlM (by simp) hkeys hvalues hread

end Gatehouse.Filter

import Gatehouse.Proofs.Query.Offences

/-!
# The first offence of a query

Each reader reports the offences of the role that it reads (`Filter.reports_readOperator` .. `SortOrder.reports_read`):
it fails for the first, and succeeds if there is none. So a query is refused for the first of its offences
(`QueryText.reports_read`), and queries that agree up to it are refused for the same cause
(`QueryText.read_first_offence`).

A filter without an offence is just one in the grammar of filters (`Filter.isFilter_iff_not_offends`).
-/

namespace Gatehouse

/-! ### One value is read -/

namespace Query.Role

variable {role : Role} {v : Json} {α : Type}

/-- What is wrong with a value in which nothing plays a role is its first offence. -/
theorem isFirst_here {e : QueryFault} (h : role.fault? v = some e) (hinside : role.inside v = []) :
    IsFirst (Offends role v) [] e where
  fault := .here h
  others place e' hoffends := by
    rw [offends_iff, hinside] at hoffends
    rcases hoffends with ⟨rfl, he'⟩ | hinside
    · exact .inl ⟨rfl, Option.some.inj (he'.symm.trans h)⟩
    · cases hinside with
      | entry found _ => exact absurd found (by simp)

/-- A value that is not itself wrong offends where what stands in it does. -/
theorem offends_iff_offendIn (h : role.fault? v = none) {place : List Nat} {e : QueryFault} :
    Offends role v place e ↔ OffendIn (role.inside v) place e := by
  rw [offends_iff, h]
  simp

/-- What comes first in a value is the first to offend in it. -/
theorem isFirst_inside {inner : Role} {w : Json} {rest : List (Role × Json)} {place : List Nat} {e : QueryFault}
    (h : role.fault? v = none) (hinside : role.inside v = (inner, w) :: rest)
    (hfirst : IsFirst (Offends inner w) place e) : IsFirst (Offends role v) (0 :: place) e := by
  have hhead : IsFirst (OffendIn ((inner, w) :: rest)) (0 :: place) e := IsFirst.head hfirst
  refine hhead.congr fun j e' _ => ?_
  rw [offends_iff_offendIn h, hinside]

/-- A value in which nothing plays a role is refused for what is wrong with it. -/
theorem reports_here {e : QueryFault} (h : role.fault? v = some e) (hinside : role.inside v = []) :
    Reports (.error e : Except QueryFault α) (Offends role v) :=
  Reports.of_isFirst (isFirst_here h hinside)

/-- A value that is not itself wrong is read like what stands in it. -/
theorem reports_inside {x : Except QueryFault α} (h : role.fault? v = none)
    (hinside : Reports x (OffendIn (role.inside v))) : Reports x (Offends role v) :=
  hinside.congr fun _ _ => (offends_iff_offendIn h).symm

/-- A value that is not wrong, and in which nothing plays a role, is accepted. -/
theorem reports_fine {a : α} (h : role.fault? v = none) (hinside : role.inside v = []) :
    Reports (.ok a : Except QueryFault α) (Offends role v) := by
  refine reports_inside h ?_
  rw [hinside]
  exact Reports.nil

/-- An array is read item by item. -/
theorem reports_items {inner : Role} {items : List Json} {f : Json → Except QueryFault α}
    (hitem : role.item? = some inner) (hfault : role.fault? (.array items) = none)
    (h : ∀ v ∈ items, Reports (f v) (Offends inner v)) : Reports (items.mapM f) (Offends role (.array items)) :=
  reports_inside hfault ((Reports.mapM h).congr fun _ _ => (offendIn_items_iff hitem).symm)

/-- An object is read entry by entry. -/
theorem reports_entries {inner : String → Role} {entries : Json.Entries}
    {f : String × Json → Except QueryFault α} (hentry : role.entry? = some inner)
    (hfault : role.fault? (.object entries) = none)
    (h : ∀ c ∈ entries, Reports (f c) (Offends (inner c.1) c.2)) :
    Reports (entries.mapM f) (Offends role (.object entries)) :=
  reports_inside hfault ((Reports.mapM h).congr fun _ _ => (offendIn_entries_iff hentry).symm)

end Query.Role

/-! ### The readers report the offences -/

open Query (Role Parameter)

namespace Filter

/-- Where a scalar is wanted, and nothing else is wrong. -/
theorem reports_readScalar {role : Role} {name : String} {v : Json}
    (hfault : role.fault? v = Role.scalarFault? name v) (hinside : role.inside v = []) :
    Reports (readScalar name v) (Role.Offends role v) := by
  cases v with
  | array items => exact Role.reports_here hfault hinside
  | object entries => exact Role.reports_here hfault hinside
  | _ => exact Role.reports_fine hfault hinside

theorem reports_readScalars {name : String} (hname : name ∈ listOperators) (v : Json) :
    Reports (readScalars name v) (Role.Offends (.operator name) v) := by
  cases v with
  | array items =>
    refine Role.reports_items (if_pos hname) (if_pos hname) fun v _ => reports_readScalar rfl ?_
    cases v <;> rfl
  | _ => exact Role.reports_here (if_pos hname) rfl

theorem reports_readLike (v : Json) : Reports (readLike "like" v) (Role.Offends (.operator "like") v) := by
  cases v with
  | string text =>
    have hfault : (Role.operator "like").fault? (.string text) =
        if (Pattern.compile? text).isSome then none else some (.badPattern text) := rfl
    rw [readLike]
    cases hlike : Like.ofText? text with
    | none =>
      refine Role.reports_here ?_ rfl
      rw [hfault]
      cases hcompiled : Pattern.compile? text with
      | none => rfl
      | some p =>
        have hsome : Like.ofText? text = some ⟨text, p, hcompiled⟩ := Like.ofText?_eq_some_iff.mpr rfl
        exact absurd (hlike.symm.trans hsome) (by simp)
    | some l =>
      refine Role.reports_fine ?_ rfl
      obtain rfl := Like.ofText?_eq_some_iff.mp hlike
      rw [hfault, l.compiled]
      rfl
  | _ => exact Role.reports_here rfl rfl

/-- What stands under the name of a comparison is a single operand. -/
theorem reports_readScalar_of_comparison {name : String} (hlist : name ∉ listOperators) (hname : name ∈ comparisons)
    (v : Json) : Reports (readScalar name v) (Role.Offends (.operator name) v) :=
  reports_readScalar (Role.operatorFault?_of_comparison hlist hname v) (Role.inside_operator hlist v)

theorem reports_readOperator (entry : String × Json) :
    Reports (readOperator entry) (Role.Offends (.operator entry.1) entry.2) := by
  obtain ⟨name, v⟩ := entry
  unfold readOperator
  dsimp only
  split
  case h_1 | h_2 => exact (reports_readScalars (by decide) v).map _
  case h_8 => exact (reports_readLike v).map _
  case h_9 hin hnin hne hgt hgte hlt hlte hlike =>
    have hlist : name ∉ listOperators := by
      intro hmem
      simp only [listOperators, List.mem_cons, List.not_mem_nil, or_false] at hmem
      rcases hmem with rfl | rfl
      · exact hin rfl
      · exact hnin rfl
    have hcomparison : name ∉ comparisons := by
      intro hmem
      simp only [comparisons, List.mem_cons, List.not_mem_nil, or_false] at hmem
      rcases hmem with rfl | rfl | rfl | rfl | rfl
      · exact hne rfl
      · exact hgt rfl
      · exact hgte rfl
      · exact hlt rfl
      · exact hlte rfl
    have hfault := Role.operatorFault?_of_unknown hlist hcomparison hlike v
    exact Role.reports_here hfault (Role.inside_operator hlist v)
  all_goals exact (reports_readScalar_of_comparison (by decide) (by decide) v).map _

/-- An array under the key of a group is refused for another cause in a base filter. -/
theorem reports_readField {path : String} {v : Json} {inBase : Bool}
    (h : inBase = true → isGroupKey path = true → ∀ items, v ≠ .array items) :
    Reports (readField (path, v)) (Role.Offends (.field path inBase) v) := by
  refine Reports.map ?_ _
  cases v with
  | array items =>
    refine Role.reports_here ?_ rfl
    have hkey : (inBase && isGroupKey path) = false := by
      rw [Bool.eq_false_iff]
      intro hboth
      obtain ⟨hbase, hgroup⟩ := Bool.and_eq_true_iff.mp hboth
      exact h hbase hgroup items rfl
    rw [Role.fault?, hkey]
    rfl
  | object entries =>
    cases entries with
    | nil => exact Role.reports_here rfl rfl
    | cons entry entries =>
      refine Reports.map ?_ _
      exact Role.reports_entries rfl rfl fun c _ => reports_readOperator c
  | _ => exact Role.reports_fine rfl rfl

theorem reports_readMember (entry : String × Json) :
    Reports (readMember entry) (Role.Offends (.field entry.1 true) entry.2) := by
  unfold readMember
  split
  next key items =>
    split
    next hkey =>
      refine Role.reports_here ?_ rfl
      have hgroup : isGroupKey key = true := by simpa [isGroupKey] using hkey
      rw [Role.fault?, hgroup]
      rfl
    next hkey =>
      refine reports_readField fun _ hgroup => absurd ?_ hkey
      simpa [isGroupKey] using hgroup
  next harray =>
    obtain ⟨key, v⟩ := entry
    exact reports_readField fun _ _ items hv => harray key items (by rw [hv])

theorem reports_readBase (name : String) (v : Json) :
    Reports (readBase name v) (Role.Offends (.base name) v) := by
  cases v with
  | object entries => exact Role.reports_entries rfl rfl fun c _ => reports_readMember c
  | _ => exact Role.reports_here rfl rfl

theorem reports_readGroup (name : String) (v : Json) :
    Reports (readGroup name v) (Role.Offends (.group name) v) := by
  cases v with
  | array items =>
    cases items with
    | nil => exact Role.reports_here rfl rfl
    | cons item items => exact Role.reports_items rfl rfl fun v _ => reports_readBase name v
  | _ => exact Role.reports_here rfl rfl

theorem reports_readEntry (e : Expression) (entry : String × Json) :
    Reports (readEntry e entry) (Role.Offends (.ofFilterKey entry.1) entry.2) := by
  obtain ⟨key, v⟩ := entry
  unfold readEntry
  by_cases hor : key = orKey
  · subst hor
    exact (reports_readGroup orKey v).map _
  by_cases hnor : key = norKey
  · subst hnor
    exact (reports_readGroup norKey v).map _
  have hkey : isGroupKey key = false := Bool.eq_false_iff.mpr fun h => (isGroupKey_iff.mp h).elim hor hnor
  have hfield : Reports (readField (key, v)) (Role.Offends (.field key false) v) :=
    reports_readField fun h => absurd h Bool.false_ne_true
  rw [if_neg hor, if_neg hnor, Role.ofFilterKey, if_neg (Bool.eq_false_iff.mp hkey)]
  exact hfield.map _

/-- **The entries of a filter are read until the first offence.** -/
theorem reports_ofEntries (entries : Json.Entries) :
    Reports (ofEntries entries) (Role.Offends (.parameter .filter) (.object entries)) := by
  have hread : Reports (entries.foldlM readEntry {})
      (FaultsIn (fun c : String × Json => Role.Offends (.ofFilterKey c.1) c.2) entries) :=
    Reports.foldlM (fun e c _ => reports_readEntry e c) {}
  exact Role.reports_inside rfl (hread.congr fun _ _ => (Role.offendIn_entries_iff rfl).symm)

/-- The objects without an offence are just those in the grammar. -/
theorem isFilter_iff_not_offends {entries : Json.Entries} :
    IsFilter entries ↔ ∀ place e, ¬ Role.Offends (.parameter .filter) (.object entries) place e :=
  exists_ofEntries_eq_ok_iff.symm.trans (reports_ofEntries entries).exists_ok_iff

end Filter

namespace Query

/-- A text is read like the entries of the object that it spells. -/
theorem reports_readObject {p : Parameter} {text : String} {α : Type} {f : Json.Entries → Except QueryFault α}
    (hf : ∀ entries, Reports (f entries) (Role.Offends (.parameter p) (.object entries))) :
    Reports ((readObject p.name text).bind f) (TextOffends p text) := by
  rw [readObject]
  cases hparse : Json.parse? text with
  | none =>
    have hmalformed (v : Json) : ¬ Json.Spells Json.depthLimit (Json.Token.ofText text) v := by
      intro hspells
      exact absurd (hparse.symm.trans (Json.parse?_eq_some_iff.mpr hspells)) (by simp)
    refine Reports.of_isFirst (i := []) ⟨.malformed hmalformed, ?_⟩
    rintro place e (_ | ⟨spelled, _⟩)
    · exact .inl ⟨rfl, rfl⟩
    · exact absurd spelled (hmalformed _)
  | some v =>
    refine Reports.congr ?_ fun place e =>
      (textOffends_iff_of_spells (Json.parse?_eq_some_iff.mp hparse)).symm
    cases v with
    | object entries => exact hf entries
    | array items => cases p <;> exact Role.reports_here rfl rfl
    | _ => exact Role.reports_here rfl rfl

end Query

theorem Filter.reports_read (text : String) : Reports (read text) (Query.TextOffends .filter text) :=
  Query.reports_readObject reports_ofEntries

theorem Projection.reports_read (text : String) : Reports (read text) (Query.TextOffends .fields text) := by
  change Reports ((readObject (Parameter.name .fields) text).bind _) _
  refine Query.reports_readObject fun entries => Role.reports_entries rfl rfl fun c _ => ?_
  obtain ⟨path, v⟩ := c
  have hfault : (Role.flag path).fault? v =
      if (flag? v).isSome then none else some (.badProjection path) := rfl
  have hinside : (Role.flag path).inside v = [] := by
    cases v <;> rfl
  dsimp only
  cases hflag : flag? v with
  | some n => exact Role.reports_fine (by rw [hfault, hflag]; rfl) hinside
  | none => exact Role.reports_here (by rw [hfault, hflag]; rfl) hinside

theorem SortOrder.reports_read (text : String) : Reports (read text) (Query.TextOffends .sort text) := by
  change Reports ((readObject (Parameter.name .sort) text).bind _) _
  refine Query.reports_readObject fun entries => Role.reports_entries rfl rfl fun c _ => ?_
  obtain ⟨path, v⟩ := c
  cases v with
  | string token => exact Role.reports_fine rfl rfl
  | _ => exact Role.reports_here rfl rfl

/-! ### Queries -/

namespace QueryText

/-- A parameter that is not present is no offence. -/
theorem reports_readPresent {α : Type} {f : String → Except QueryFault α} (t : QueryText) {p : Parameter}
    (h : ∀ text, Reports (f text) (Query.TextOffends p text)) :
    Reports (readPresent f (t.text p)) (t.OffendsIn p) := by
  unfold readPresent OffendsIn
  cases present (t.text p) with
  | none => exact Reports.of_clean (by simp)
  | some text => exact ((h text).map some).congr (by simp)

/-- **A query is refused for its first offence**, and accepted if it has none. -/
theorem reports_read (t : QueryText) : Reports t.read t.Offends := by
  refine Reports.cons (t.reports_readPresent Filter.reports_read) fun filter _ => ?_
  refine Reports.cons (t.reports_readPresent Projection.reports_read) fun projection _ => ?_
  refine Reports.cons (t.reports_readPresent SortOrder.reports_read) fun sort _ => ?_
  exact Reports.nil

/-- A parameter is read if it is present and its text is. -/
theorem readPresent_eq_ok_iff {α : Type} {f : String → Except QueryFault α} {parameter : Option String}
    {o : Option α} : readPresent f parameter = .ok o ↔ (present parameter).map f = o.map .ok := by
  rw [readPresent]
  cases present parameter with
  | none => cases o <;> simp
  | some text =>
    cases o with
    | none => simp [map_eq_ok_iff]
    | some a => simp [map_eq_ok_iff]

theorem exists_readPresent_eq_ok_iff {α : Type} {f : String → Except QueryFault α} {parameter : Option String} :
    (∃ o, readPresent f parameter = .ok o) ↔ ∀ text, present parameter = some text → ∃ a, f text = .ok a := by
  rw [readPresent]
  cases present parameter with
  | none => simp
  | some text => simp [exists_map_eq_ok_iff]

/-- A query is read parameter by parameter. -/
theorem read_eq_ok_iff {t : QueryText} {q : Query} :
    t.read = .ok q ↔
      readPresent Filter.read t.filter = .ok q.filter ∧ readPresent Projection.read t.fields = .ok q.projection ∧
      readPresent SortOrder.read t.sort = .ok q.sort ∧ q.limit = t.limit.bind Text.count? ∧
      q.skip = t.skip.bind Text.count? := by
  change (readPresent Filter.read t.filter).bind (fun filter => (readPresent Projection.read t.fields).bind
    fun projection => (readPresent SortOrder.read t.sort).bind fun sort =>
      .ok (Query.mk filter sort projection (t.limit.bind Text.count?) (t.skip.bind Text.count?))) = _ ↔ _
  simp only [bind_eq_ok_iff]
  constructor
  · rintro ⟨filter, hfilter, projection, hprojection, sort, hsort, hq⟩
    obtain rfl := Except.ok.inj hq
    exact ⟨hfilter, hprojection, hsort, rfl, rfl⟩
  · rintro ⟨hfilter, hprojection, hsort, hlimit, hskip⟩
    refine ⟨q.filter, hfilter, q.projection, hprojection, q.sort, hsort, ?_⟩
    rw [← hlimit, ← hskip]

/-- A query is accepted if each of its parameters that is present is. -/
theorem exists_read_eq_ok_iff {t : QueryText} :
    (∃ q, t.read = .ok q) ↔
      (∃ filter, readPresent Filter.read t.filter = .ok filter) ∧
      (∃ projection, readPresent Projection.read t.fields = .ok projection) ∧
      ∃ sort, readPresent SortOrder.read t.sort = .ok sort := by
  constructor
  · rintro ⟨q, hq⟩
    obtain ⟨hfilter, hprojection, hsort, -⟩ := read_eq_ok_iff.mp hq
    exact ⟨⟨_, hfilter⟩, ⟨_, hprojection⟩, ⟨_, hsort⟩⟩
  · rintro ⟨⟨filter, hfilter⟩, ⟨projection, hprojection⟩, ⟨sort, hsort⟩⟩
    exact ⟨⟨filter, sort, projection, _, _⟩, read_eq_ok_iff.mpr ⟨hfilter, hprojection, hsort, rfl, rfl⟩⟩

/-- Limit and skip are no offences. -/
theorem offends_window (t : QueryText) (limit skip : Option String) :
    ({ t with limit, skip } : QueryText).Offends = t.Offends := by
  have htext : ({ t with limit, skip } : QueryText).text = t.text := by
    funext p
    cases p <;> rfl
  unfold Offends OffendsIn
  rw [htext]

/-- With another limit and skip a query is read as before, but for these. -/
theorem read_window (t : QueryText) (limit skip : Option String) :
    ({ t with limit, skip } : QueryText).read =
      t.read.map fun q => { q with limit := limit.bind Text.count?, skip := skip.bind Text.count? } := by
  cases hread : t.read with
  | ok q =>
    obtain ⟨hfilter, hprojection, hsort, -⟩ := read_eq_ok_iff.mp hread
    exact read_eq_ok_iff.mpr ⟨hfilter, hprojection, hsort, rfl, rfl⟩
  | error e =>
    obtain ⟨place, hfirst⟩ := t.reports_read.eq_error_iff.mp hread
    rw [← t.offends_window limit skip] at hfirst
    exact (reports_read _).eq_error_iff.mpr ⟨place, hfirst⟩

/-- **Queries that agree up to the first offence of one are refused for the same cause.** -/
theorem read_of_agreeUpTo {t t' : QueryText} {place : List Nat} {e : QueryFault} (hfirst : IsFirst t.Offends place e)
    (hagree : AgreeUpTo t t' place) : t'.read = .error e := by
  refine t'.reports_read.eq_error_iff.mpr ⟨place, hfirst.congr fun j e' hj => ?_⟩
  constructor
  · intro h
    exact h.of_agreeUpTo hagree hj
  · intro h
    exact h.of_agreeUpTo hagree.symm hj

/-- **A query is read if each of its parameters is, and is refused for its first offence.** What is read is what each
present parameter is read as by itself; limit and skip refuse nothing. The cause of a refusal is that of the first
offence, and no later entry and no later parameter has a say in it. -/
theorem read_first_offence (t : QueryText) :
    ((∃ q, t.read = .ok q) ↔
      (∀ text, present t.filter = some text → ∃ f, Filter.read text = .ok f) ∧
      (∀ text, present t.fields = some text → ∃ p, Projection.read text = .ok p) ∧
      ∀ text, present t.sort = some text → ∃ o, SortOrder.read text = .ok o) ∧
    (∀ q, t.read = .ok q →
      (present t.filter).map Filter.read = q.filter.map .ok ∧
      (present t.fields).map Projection.read = q.projection.map .ok ∧
      (present t.sort).map SortOrder.read = q.sort.map .ok ∧
      q.limit = t.limit.bind Text.count? ∧ q.skip = t.skip.bind Text.count?) ∧
    (∀ limit skip, ({ t with limit, skip } : QueryText).read =
      t.read.map fun q => { q with limit := limit.bind Text.count?, skip := skip.bind Text.count? }) ∧
    (∀ e, t.read = .error e ↔ ∃ place, IsFirst t.Offends place e) ∧
    ∀ place e, IsFirst t.Offends place e → ∀ t', AgreeUpTo t t' place → t'.read = .error e := by
  refine ⟨?_, ?_, t.read_window, fun e => t.reports_read.eq_error_iff, ?_⟩
  · rw [exists_read_eq_ok_iff]
    simp only [exists_readPresent_eq_ok_iff]
  · intro q hq
    simpa only [readPresent_eq_ok_iff] using read_eq_ok_iff.mp hq
  · intro place e hfirst t' hagree
    exact read_of_agreeUpTo hfirst hagree

/-! ### A sample -/

/-- A filter with several offences. -/
def spoiltFilter : String := "\x7b\"b\":\x7b\"between\":0,\"gt\":[]\x7d,\"or\":1\x7d"

/-- A filter that ends after the first of them. -/
def spoiltStart : String := "\x7b\"b\":\x7b\"between\":0\x7d\x7d"

/-- Two queries with these filters are refused for the offence that they share, whatever else is sent. -/
theorem spoilt_refused_alike :
    (read { filter := some spoiltFilter, sort := some "[" }) = .error (.unknownOperator "between") ∧
    (read { filter := some spoiltStart, fields := some "0", limit := some "-" }) =
      .error (.unknownOperator "between") := by
  let t : QueryText := { filter := some spoiltFilter, sort := some "[" }
  let t' : QueryText := { filter := some spoiltStart, fields := some "0", limit := some "-" }
  let operator : String × Json := ("between", .number (.int 0))
  let field : Json := .object [operator, ("gt", .array [])]
  let v : Json := .object [("b", field), ("or", .number (.int 1))]
  let v' : Json := .object [("b", .object [operator])]
  have hv : Json.Spells Json.depthLimit (Json.Token.ofText spoiltFilter) v := Json.parse?_eq_some_iff.mp rfl
  have hv' : Json.Spells Json.depthLimit (Json.Token.ofText spoiltStart) v' := Json.parse?_eq_some_iff.mp rfl
  have hoperator : IsFirst (Role.Offends (.operator "between") operator.2) [] (.unknownOperator "between") :=
    Role.isFirst_here rfl rfl
  have hfield : IsFirst (Role.Offends (.field "b" false) field) [0] (.unknownOperator "between") :=
    Role.isFirst_inside rfl rfl hoperator
  have hvalue : IsFirst (Role.Offends (.parameter .filter) v) [0, 0] (.unknownOperator "between") :=
    Role.isFirst_inside rfl rfl hfield
  have hquery : IsFirst t.Offends [0, 0, 0] (.unknownOperator "between") :=
    IsFirst.head (hvalue.congr fun _ _ _ => (offendsIn_iff_of_spells rfl hv).symm)
  have hagree : v.AgreeUpTo [0, 0] v' := .entry [] _ [] "b" (.entry [] _ [] "between" (.here _))
  have hsent : AgreeUpTo t t' [0, 0, 0] :=
    @AgreeUpTo.parameter t t' [] [.fields, .sort] .filter _ _ v v' [0, 0] rfl (fun _ h => absurd h List.not_mem_nil)
      rfl rfl hv hv' hagree
  obtain ⟨-, -, -, hcause, hsame⟩ := read_first_offence t
  exact ⟨(hcause _).mpr ⟨_, hquery⟩, hsame _ _ hquery t' hsent⟩

end QueryText

end Gatehouse

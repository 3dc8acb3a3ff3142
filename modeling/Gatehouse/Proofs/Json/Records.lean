import Gatehouse.Json.Record
import Gatehouse.Proofs.Json.Grammar
import Gatehouse.Proofs.Traversal

/-!
# What a record is read from

A record is cut into cells before it is looked into. Which tokens are a value is said by a grammar, without
that machine (`Record.Whole`); a string or number in it need not have a value of its own.

## Main results

* `Consumed.step`: a value that is being skipped accounts for every token taken so far.
* `cutsAll`: what is cut to its end is an object of members, or an array of items, that are each whole.
* `of_read_object`, `of_read_array`: a record that is read is an object in which each field stands once, or
  may be missing, or an array of the fields in order.
-/

namespace Gatehouse.Json.Record

/-! ### The grammar -/

/-- A member of an object as tokens: its key, if that has a text, and its value. -/
abbrev Member := Option String × List Token

/-- The tokens of a member. -/
def memberTokens (m : Member) : List Token := .string m.1 :: .colon :: m.2

/-- The tokens of an object with some members. -/
def objectTokens (members : List Member) : List Token :=
  .openBrace :: separated (members.map memberTokens) ++ [.closeBrace]

/-- The tokens of an array with some items. -/
def arrayTokens (items : List (List Token)) : List Token := .openBracket :: separated items ++ [.closeBracket]

/-- Some tokens are one whole value. -/
inductive Whole : List Token → Prop
  | null : Whole [.null]
  | bool (b : Bool) : Whole [.bool b]
  | number (n : Option Number) : Whole [.number n]
  | string (s : Option String) : Whole [.string s]
  | array {items : List (List Token)} (h : ∀ v ∈ items, Whole v) : Whole (arrayTokens items)
  | object {members : List Member} (h : ∀ m ∈ members, Whole m.2) : Whole (objectTokens members)

theorem Whole.emptyArray : Whole (arrayTokens []) := .array (List.forall_mem_nil _)

theorem Whole.emptyObject : Whole (objectTokens []) := .object (List.forall_mem_nil _)

/-- The values under a key, in order. -/
def valuesOf (key : String) (members : List Member) : List (List Token) :=
  (members.filter fun m => m.1 = some key).map (·.2)

/-! ### Skipping a value -/

/-- The tokens of an array that has begun, after some items. -/
def arrayStart (items : List (List Token)) : List Token :=
  .openBracket :: items.flatMap (· ++ [Token.comma])

/-- The tokens of an object that has begun, after some members. -/
def objectStart (members : List Member) : List Token :=
  .openBrace :: (members.map memberTokens).flatMap (· ++ [Token.comma])

theorem arrayStart_concat (items : List (List Token)) (v : List Token) :
    arrayStart (items ++ [v]) = arrayStart items ++ (v ++ [.comma]) := by
  simp [arrayStart]

theorem objectStart_concat (members : List Member) (m : Member) :
    objectStart (members ++ [m]) = objectStart members ++ (memberTokens m ++ [.comma]) := by
  simp [objectStart]

theorem arrayTokens_concat (items : List (List Token)) (v : List Token) :
    arrayTokens (items ++ [v]) = arrayStart items ++ (v ++ [.closeBracket]) := by
  rw [arrayTokens, separated_concat, arrayStart, List.cons_append, List.cons_append, List.append_assoc]

theorem objectTokens_concat (members : List Member) (m : Member) :
    objectTokens (members ++ [m]) = objectStart members ++ (memberTokens m ++ [.closeBrace]) := by
  rw [objectTokens, List.map_append, List.map_singleton, separated_concat, objectStart, List.cons_append,
    List.cons_append, List.append_assoc]

/-- The tokens with which the open brackets began, up to where a value is due. -/
inductive Opened : List Bool → List Token → Prop
  | nil : Opened [] []
  | array {brackets : List Bool} {ts : List Token} {items : List (List Token)} (outer : Opened brackets ts)
      (whole : ∀ v ∈ items, Whole v) : Opened (false :: brackets) (ts ++ arrayStart items)
  | object {brackets : List Bool} {ts : List Token} {members : List Member} (outer : Opened brackets ts)
      (whole : ∀ m ∈ members, Whole m.2) (key : Option String) :
      Opened (true :: brackets) (ts ++ (objectStart members ++ [.string key, .colon]))

/-- All tokens taken so far are accounted for by the brackets that are open and by what comes next. -/
inductive Consumed : Skip → List Token → Prop
  | value {brackets : List Bool} {ts : List Token} (outer : Opened brackets ts) : Consumed ⟨brackets, .value⟩ ts
  | valueOrClose {brackets : List Bool} {ts : List Token} (outer : Opened brackets ts) :
      Consumed ⟨false :: brackets, .valueOrClose⟩ (ts ++ arrayStart [])
  | key {brackets : List Bool} {ts : List Token} {members : List Member} (outer : Opened brackets ts)
      (whole : ∀ m ∈ members, Whole m.2) : Consumed ⟨true :: brackets, .key⟩ (ts ++ objectStart members)
  | keyOrClose {brackets : List Bool} {ts : List Token} (outer : Opened brackets ts) :
      Consumed ⟨true :: brackets, .keyOrClose⟩ (ts ++ objectStart [])
  | colon {brackets : List Bool} {ts : List Token} {members : List Member} (outer : Opened brackets ts)
      (whole : ∀ m ∈ members, Whole m.2) (key : Option String) :
      Consumed ⟨true :: brackets, .colon⟩ (ts ++ (objectStart members ++ [.string key]))
  | separator {brackets : List Bool} {ts v : List Token} (outer : Opened brackets ts) (whole : Whole v) :
      Consumed ⟨brackets, .separator⟩ (ts ++ v)

/-- What a step has made of the tokens taken so far: a whole value, or one that goes on. -/
def SkipStep.Accounts : SkipStep → List Token → Prop
  | .more s, ts => Consumed s ts
  | .done, ts => Whole ts
  | .fault, _ => True

variable {brackets : List Bool} {ts v : List Token} {s : Skip} {items : List (List Token)} {members : List Member}

/-- After a value. -/
theorem accounts_after (outer : Opened brackets ts) (whole : Whole v) :
    (Skip.after brackets).Accounts (ts ++ v) := by
  cases outer with
  | nil => exact whole
  | array outer items => exact .separator (.array outer items) whole
  | object outer members key => exact .separator (.object outer members key) whole

/-- At the first token of a value. -/
theorem accounts_begin (outer : Opened brackets ts) (t : Token) :
    (Skip.begin brackets t).Accounts (ts ++ [t]) := by
  cases t with
  | openBrace => exact Consumed.keyOrClose outer
  | openBracket => exact Consumed.valueOrClose outer
  | null => exact accounts_after outer .null
  | bool b => exact accounts_after outer (.bool b)
  | string s => exact accounts_after outer (.string s)
  | number n => exact accounts_after outer (.number n)
  | closeBrace | closeBracket | colon | comma | bad => trivial

/-- One more member. -/
theorem whole_concat (h : ∀ m ∈ members, Whole m.2) (key : Option String) (hv : Whole v) :
    ∀ m ∈ members ++ [(key, v)], Whole m.2 :=
  List.forall_mem_append.mpr ⟨h, fun _ hm => List.mem_singleton.mp hm ▸ hv⟩

/-- **One token keeps the account.** The cases are those of what was expected, and of the bracket that is
open. -/
theorem Consumed.step (h : Consumed s ts) (t : Token) : (s.step t).Accounts (ts ++ [t]) := by
  cases h with
  | value outer => exact accounts_begin outer t
  | valueOrClose outer =>
    have hbegin := accounts_begin (Opened.array outer (List.forall_mem_nil _)) t
    cases t with
    | closeBracket =>
      rw [List.append_assoc]
      exact accounts_after outer Whole.emptyArray
    | _ => exact hbegin
  | @key brackets ts members outer whole =>
    cases t with
    | string key =>
      rw [List.append_assoc]
      exact Consumed.colon outer whole key
    | _ => trivial
  | keyOrClose outer =>
    cases t with
    | closeBrace =>
      rw [List.append_assoc]
      exact accounts_after outer Whole.emptyObject
    | string key =>
      rw [List.append_assoc]
      exact Consumed.colon outer (List.forall_mem_nil _) key
    | _ => trivial
  | @colon brackets ts members outer whole key =>
    cases t with
    | colon =>
      rw [List.append_assoc, List.append_assoc]
      exact Consumed.value (.object outer whole key)
    | _ => trivial
  | @separator brackets ts v outer whole =>
    cases outer with
    | nil => cases t <;> trivial
    | @array brackets ts items outer wholes =>
      have hitems : ∀ w ∈ items ++ [v], Whole w :=
        List.forall_mem_append.mpr ⟨wholes, List.forall_mem_singleton.mpr whole⟩
      cases t with
      | comma =>
        rw [List.append_assoc, List.append_assoc, ← arrayStart_concat]
        exact Consumed.value (.array outer hitems)
      | closeBracket =>
        rw [List.append_assoc, List.append_assoc, ← arrayTokens_concat]
        exact accounts_after outer (.array hitems)
      | _ => trivial
    | @object brackets ts members outer wholes key =>
      have hmembers := whole_concat wholes key whole
      have hsplit (close : Token) : ts ++ (objectStart members ++ [.string key, .colon]) ++ v ++ [close] =
          ts ++ (objectStart members ++ (memberTokens (key, v) ++ [close])) := by
        simp [memberTokens]
      cases t with
      | comma =>
        rw [hsplit, ← objectStart_concat]
        exact Consumed.key outer hmembers
      | closeBrace =>
        rw [hsplit, ← objectTokens_concat]
        exact accounts_after outer (.object hmembers)
      | _ => trivial

/-! ### Cutting into cells -/

/-- The tokens of a cell in an object or array. -/
def Cell.written (isObject : Bool) (c : Cell) : List Token :=
  if isObject then memberTokens (c.key, c.tokens) else c.tokens

/-- The end of an object or array. -/
def closing (isObject : Bool) : Token := if isObject then .closeBrace else .closeBracket

/-- The tokens after a cell: further cells, each after a comma, to the end and beyond it. -/
def tailTokens (isObject : Bool) (cells : List Cell) (rest : List Token) : List Token :=
  cells.flatMap (fun c => Token.comma :: c.written isObject) ++ closing isObject :: rest

/-- The tokens that are still to come at a place, if they are cut into these cells, with this rest. -/
def Place.Cuts (isObject : Bool) (rest : List Token) : Place → List Token → List Cell → Prop
  | .first, ts, cells => ts = separated (cells.map (·.written isObject)) ++ closing isObject :: rest
  | .next, ts, cells => ∃ c cells', cells = c :: cells' ∧ ts = c.written isObject ++ tailTokens isObject cells' rest
  | .colon key, ts, cells => ∃ c cells', cells = c :: cells' ∧ c.key = key ∧
      ts = .colon :: c.tokens ++ tailTokens isObject cells' rest
  | .value key taken _, ts, cells => ∃ c cells', cells = c :: cells' ∧ c.key = key ∧
      taken.reverse ++ ts = c.tokens ++ tailTokens isObject cells' rest
  | .after, ts, cells => ts = tailTokens isObject cells rest

/-- The place is one that tokens have led to. -/
def Place.Reached : Place → Prop
  | .value _ taken skip => Consumed skip taken.reverse
  | _ => True

/-- A cell that is a whole value. -/
def Cell.IsWhole (c : Cell) : Prop := c.whole = true ∧ Whole c.tokens

/-- A first cell, and those after it. -/
theorem separated_written (isObject : Bool) (c : Cell) (cells : List Cell) (rest : List Token) :
    separated ((c :: cells).map (·.written isObject)) ++ closing isObject :: rest =
      c.written isObject ++ tailTokens isObject cells rest := by
  rw [List.map_cons, separated_cons, List.flatMap_map, List.append_assoc]
  rfl

section Cutting

variable {isObject : Bool} {place : Place} {t : Token} {rest : List Token} {cells : List Cell}

/-- A cell begins with its key in an object, and with its value in an array. -/
def cutCell (isObject : Bool) (t : Token) (ts : List Token) : List Cell × Ending :=
  if isObject then
    match t with
    | .string key => cutFrom isObject (.colon key) ts
    | _ => ([], .broken)
  else cutFrom isObject (.value none [] ⟨[], .value⟩) (t :: ts)

theorem cutFrom_first (isObject : Bool) (t : Token) (ts : List Token) :
    cutFrom isObject .first (t :: ts) =
      if t = closing isObject then ([], .closed ts) else cutCell isObject t ts := by
  cases isObject <;> cases t <;> rfl

theorem cutFrom_next (isObject : Bool) (t : Token) (ts : List Token) :
    cutFrom isObject .next (t :: ts) =
      if !isObject && t = .closeBracket then ([], .broken) else cutCell isObject t ts := by
  cases isObject <;> cases t <;> rfl

theorem cutFrom_after (isObject : Bool) (t : Token) (ts : List Token) :
    cutFrom isObject .after (t :: ts) =
      if t = .comma then cutFrom isObject .next ts
      else if t = closing isObject then ([], .closed ts) else ([], .broken) := by
  cases isObject <;> cases t <;> rfl

/-- What the rest of the tokens is cut into at any place that they have led to. -/
def CutsAll (isObject : Bool) (rest ts : List Token) : Prop :=
  ∀ (place : Place) (cells : List Cell), place.Reached → cutFrom isObject place ts = (cells, .closed rest) →
    (∀ c ∈ cells, c.IsWhole) ∧ place.Cuts isObject rest ts cells

/-- Inside a value one more token is taken. -/
theorem cuts_value (ih : CutsAll isObject rest ts) {key : Option String} {taken : List Token} {skip : Skip}
    (reached : Consumed skip taken.reverse)
    (h : cutFrom isObject (.value key taken skip) (t :: ts) = (cells, .closed rest)) :
    (∀ c ∈ cells, c.IsWhole) ∧ Place.Cuts isObject rest (.value key taken skip) (t :: ts) cells := by
  have haccounts := reached.step t
  have htaken : taken.reverse ++ [t] = (t :: taken).reverse := List.reverse_cons.symm
  rw [htaken] at haccounts
  have hsplit : taken.reverse ++ t :: ts = (t :: taken).reverse ++ ts := by simp
  rw [cutFrom] at h
  dsimp only at h
  cases hstep : skip.step t with
  | more s =>
    rw [hstep] at h haccounts
    obtain ⟨hwhole, c, cells', hcells, hkey, hts⟩ := ih (.value key (t :: taken) s) _ haccounts h
    exact ⟨hwhole, c, cells', hcells, hkey, hsplit.trans hts⟩
  | done =>
    rw [hstep] at h haccounts
    obtain ⟨rfl, hafter⟩ := Prod.mk.inj h
    obtain ⟨hwhole, hts⟩ := ih .after _ trivial (Prod.ext rfl hafter)
    refine ⟨List.forall_mem_cons.mpr ⟨⟨rfl, haccounts⟩, hwhole⟩, _, _, rfl, rfl, ?_⟩
    exact hsplit.trans (congrArg ((t :: taken).reverse ++ ·) hts)
  | fault =>
    rw [hstep] at h
    exact absurd (Prod.mk.inj h).2 nofun

/-- After a key comes a colon, and then a value. -/
theorem cuts_colon (ih : CutsAll isObject rest ts) {key : Option String}
    (h : cutFrom isObject (.colon key) (t :: ts) = (cells, .closed rest)) :
    (∀ c ∈ cells, c.IsWhole) ∧ Place.Cuts isObject rest (.colon key) (t :: ts) cells := by
  rw [cutFrom] at h
  split at h
  next ht =>
    obtain ⟨hwhole, c, cells', hcells, hkey, hts⟩ :=
      ih (.value key [] ⟨[], .value⟩) _ (.value .nil) h
    exact ⟨hwhole, c, cells', hcells, hkey, by rw [ht, List.cons_append, ← hts]; rfl⟩
  next => exact absurd (Prod.mk.inj h).2 nofun

/-- A cell is cut at its beginning. -/
theorem cuts_next (ih : CutsAll isObject rest ts) (h : cutCell isObject t ts = (cells, .closed rest)) :
    (∀ c ∈ cells, c.IsWhole) ∧ Place.Cuts isObject rest .next (t :: ts) cells := by
  unfold cutCell at h
  cases isObject with
  | true =>
    rw [if_pos rfl] at h
    split at h
    next key =>
      obtain ⟨hwhole, c, cells', hcells, hkey, hts⟩ := ih (.colon key) _ trivial h
      refine ⟨hwhole, c, cells', hcells, ?_⟩
      rw [hts, ← hkey]
      rfl
    next => exact absurd (Prod.mk.inj h).2 nofun
  | false =>
    rw [if_neg Bool.false_ne_true] at h
    obtain ⟨hwhole, c, cells', hcells, -, hts⟩ := cuts_value ih (.value .nil) h
    exact ⟨hwhole, c, cells', hcells, hts⟩

/-- **What is cut to the end is cut into whole cells, and nothing is lost.** -/
theorem cutsAll (ts : List Token) : CutsAll isObject rest ts := by
  induction ts with
  | nil =>
    intro place cells _ h
    cases place <;> exact absurd (congrArg Prod.snd h) nofun
  | cons t ts ih =>
    intro place cells reached h
    cases place with
    | value key taken skip => exact cuts_value ih reached h
    | colon key => exact cuts_colon ih h
    | first =>
      rw [cutFrom_first] at h
      split at h
      next ht =>
        obtain ⟨rfl, hrest⟩ := Prod.mk.inj h
        obtain rfl := Ending.closed.inj hrest
        exact ⟨List.forall_mem_nil _, congrArg (· :: ts) ht⟩
      next =>
        obtain ⟨hwhole, c, cells', rfl, hts⟩ := cuts_next ih h
        exact ⟨hwhole, hts.trans (separated_written isObject c cells' rest).symm⟩
    | next =>
      rw [cutFrom_next] at h
      split at h
      · exact absurd (Prod.mk.inj h).2 nofun
      · exact cuts_next ih h
    | after =>
      rw [cutFrom_after] at h
      split at h
      next ht =>
        obtain ⟨hwhole, c, cells', rfl, hts⟩ := ih .next _ trivial h
        refine ⟨hwhole, ?_⟩
        rw [ht, hts]
        simp [Place.Cuts, tailTokens]
      next =>
        split at h
        next ht =>
          obtain ⟨rfl, hrest⟩ := Prod.mk.inj h
          obtain rfl := Ending.closed.inj hrest
          exact ⟨List.forall_mem_nil _, congrArg (· :: ts) ht⟩
        next => exact absurd (Prod.mk.inj h).2 nofun

end Cutting

/-- A cell as a member. -/
def Cell.member (c : Cell) : Member := (c.key, c.tokens)

/-- An object that is cut to its end consists of its cells. -/
theorem of_cutFrom_object {rest : List Token} {cells : List Cell}
    (h : cutFrom true .first ts = (cells, .closed rest)) :
    (∀ c ∈ cells, c.IsWhole) ∧ .openBrace :: ts = objectTokens (cells.map Cell.member) ++ rest := by
  obtain ⟨hwhole, hts⟩ := cutsAll ts .first cells trivial h
  have hwritten : cells.map (Cell.written true) = (cells.map Cell.member).map memberTokens := by
    rw [List.map_map]
    rfl
  refine ⟨hwhole, ?_⟩
  rw [show ts = _ from hts, hwritten, objectTokens, List.append_assoc]
  rfl

/-- An array that is cut to its end consists of its cells. -/
theorem of_cutFrom_array {rest : List Token} {cells : List Cell}
    (h : cutFrom false .first ts = (cells, .closed rest)) :
    (∀ c ∈ cells, c.IsWhole) ∧ .openBracket :: ts = arrayTokens (cells.map Cell.tokens) ++ rest := by
  obtain ⟨hwhole, hts⟩ := cutsAll ts .first cells trivial h
  refine ⟨hwhole, ?_⟩
  rw [show ts = _ from hts, arrayTokens, List.append_assoc]
  rfl

/-! ### Reading the fields -/

theorem valuesOf_cons_of_eq {key : String} {m : Member} (h : m.1 = some key) (members : List Member) :
    valuesOf key (m :: members) = m.2 :: valuesOf key members := by
  simp [valuesOf, h]

theorem valuesOf_cons_of_ne {key : String} {m : Member} (h : m.1 ≠ some key) (members : List Member) :
    valuesOf key (m :: members) = valuesOf key members := by
  simp [valuesOf, h]

/-- What a whole value is read as. -/
def Kind.Reads (kind : Kind) (tokens : List Token) (v : Value) : Prop := kind.read ⟨none, tokens, true⟩ = .ok v

/-- Only the value of a whole cell counts. -/
theorem Kind.reads_of_read {kind : Kind} {c : Cell} {v : Value} (hc : c.whole = true) (h : kind.read c = .ok v) :
    kind.Reads c.tokens v := by
  obtain ⟨key, tokens, whole⟩ := c
  obtain rfl : whole = true := hc
  exact h

/-- A field has a value among members: it stands there once, or it may be missing. -/
inductive Field.Has (members : List Member) (f : Field) (v : Value) : Prop
  | once {tokens : List Token} (stands : valuesOf f.name members = [tokens]) (reads : f.kind.Reads tokens v)
  | missing (absent : valuesOf f.name members = []) (lacks : f.kind.missing? = some v)

/-- The cells of a field are read once, or there are none. -/
theorem of_readObject_eq_ok {fields : List Field} {found found' : Found} {cells : List Cell}
    (hwhole : ∀ c ∈ cells, c.IsWhole) (h : readObject fields found cells = .ok found') {f : Field}
    (hf : fields.find? (fun g => g.name = f.name) = some f) :
    (found'.lookup f.name = found.lookup f.name ∧ valuesOf f.name (cells.map Cell.member) = []) ∨
      ∃ tokens v, found.lookup f.name = none ∧ valuesOf f.name (cells.map Cell.member) = [tokens] ∧
        f.kind.Reads tokens v ∧ found'.lookup f.name = some v := by
  induction cells generalizing found with
  | nil =>
    obtain rfl := Except.ok.inj h
    exact .inl ⟨rfl, rfl⟩
  | cons c cells ih =>
    obtain ⟨hc, hcells⟩ := List.forall_mem_cons.mp hwhole
    rw [readObject] at h
    split at h
    · exact absurd h nofun
    next key hkey =>
    have hother (hne : key ≠ f.name) : valuesOf f.name ((c :: cells).map Cell.member) =
        valuesOf f.name (cells.map Cell.member) := by
      refine valuesOf_cons_of_ne (fun heq => hne ?_) _
      exact Option.some.inj (hkey.symm.trans heq)
    split at h
    next hunknown =>
      rw [if_pos hc.1] at h
      have hne : key ≠ f.name := by
        rintro rfl
        exact absurd (hunknown.symm.trans hf) nofun
      rw [hother hne]
      exact ih hcells h
    next g hg =>
      obtain ⟨hnew, h⟩ := ite_error_eq_ok_iff.mp h
      split at h
      next v hread =>
        have hih := ih hcells h
        by_cases heq : key = f.name
        · subst heq
          obtain rfl : f = g := Option.some.inj (hf.symm.trans hg)
          have hfirst : List.lookup f.name ((f.name, v) :: found) = some v := by simp
          rw [hfirst] at hih
          rcases hih with ⟨hlookup, hnone⟩ | ⟨_, _, hlookup, -⟩
          · refine .inr ⟨c.tokens, v, ?_, ?_, Kind.reads_of_read hc.1 hread, hlookup⟩
            · rw [List.lookup_eq_none_iff]
              intro e he
              have hne := fun heq => hnew (List.any_eq_true.mpr ⟨e, he, decide_eq_true heq⟩)
              simpa using Ne.symm hne
            · rw [List.map_cons, valuesOf_cons_of_eq hkey, hnone]
              rfl
          · exact absurd hlookup nofun
        · have hskip : List.lookup f.name ((key, v) :: found) = found.lookup f.name := by
            rw [List.lookup_cons, beq_eq_false_iff_ne.mpr (Ne.symm heq)]
          rw [hskip] at hih
          rw [hother heq]
          exact hih
      next => exact absurd h nofun

/-- The values of the fields are those that were found, or those of fields that may be missing. -/
theorem forall₂_of_collect_eq_ok {found : Found} {fields : List Field} {values : List Value}
    {P : Field → Value → Prop}
    (hP : ∀ f ∈ fields, ∀ v, (found.lookup f.name).or f.kind.missing? = some v → P f v)
    (h : collect found fields = .ok values) : List.Forall₂ P fields values := by
  induction fields generalizing values with
  | nil =>
    obtain rfl := Except.ok.inj h
    exact .nil
  | cons f fields ih =>
    obtain ⟨hfirst, hrest⟩ := List.forall_mem_cons.mp hP
    rw [collect] at h
    split at h
    · exact absurd h nofun
    next v hv =>
      obtain ⟨values', hvalues', rfl⟩ := map_eq_ok_iff.mp h
      exact .cons (hfirst v hv) (ih hrest hvalues')

/-- A record that is finished ends with its closing bracket. -/
theorem of_finish_eq_ok {ending : Ending} {result : Except Fault (List Value)} {values : List Value}
    (h : finish ending result = .ok values) : ending = .closed [] ∧ result = .ok values := by
  unfold finish at h
  split at h
  · exact absurd h nofun
  · exact absurd h nofun
  next vs rest =>
    split at h
    next hrest =>
      obtain rfl := Except.ok.inj h
      exact ⟨congrArg _ (List.isEmpty_iff.mp hrest), rfl⟩
    next => exact absurd h nofun

/-- A record is read from an object or from an array. -/
theorem exists_of_read_eq_ok {fields : List Field} {values : List Value} (h : read fields ts = .ok values) :
    (∃ rest, ts = .openBrace :: rest) ∨ ∃ rest, ts = .openBracket :: rest := by
  unfold read at h
  split at h
  · exact .inl ⟨_, rfl⟩
  · exact .inr ⟨_, rfl⟩
  · exact absurd h nofun

/-- Under its own name a field is found, if no two have one name. -/
theorem find?_name {fields : List Field} (hnames : (fields.map (·.name)).Nodup) {f : Field} (hf : f ∈ fields) :
    fields.find? (fun g => g.name = f.name) = some f := by
  obtain ⟨before, after, rfl⟩ := List.append_of_mem hf
  refine List.find?_eq_some_iff_append.mpr ⟨decide_eq_true rfl, before, after, rfl, fun g hg => ?_⟩
  rw [List.map_append, List.map_cons] at hnames
  have hne := (List.nodup_append.mp hnames).2.2 g.name (List.mem_map_of_mem hg) f.name List.mem_cons_self
  simpa using hne

/-- **A record that is read from an object** has each of its fields once, or may lack it; whatever else stands
in the object is whole. -/
theorem of_read_object {fields : List Field} {values : List Value} (hnames : (fields.map (·.name)).Nodup)
    (h : read fields (.openBrace :: ts) = .ok values) :
    ∃ members : List Member, (∀ m ∈ members, Whole m.2) ∧ .openBrace :: ts = objectTokens members ∧
      List.Forall₂ (Field.Has members) fields values := by
  rw [read] at h
  cases hcut : cutFrom true .first ts with
  | mk cells ending =>
    rw [hcut] at h
    dsimp only at h
    split at h
    · exact absurd h nofun
    · exact absurd h nofun
    next found hfound _ =>
      obtain ⟨rfl, hcollect⟩ := of_finish_eq_ok h
      obtain ⟨hwhole, hts⟩ := of_cutFrom_object hcut
      refine ⟨cells.map Cell.member, ?_, hts.trans (List.append_nil _), ?_⟩
      · exact List.forall_mem_map.mpr fun c hc => (hwhole c hc).2
      refine forall₂_of_collect_eq_ok (fun f hf v hv => ?_) hcollect
      rcases of_readObject_eq_ok hwhole hfound (find?_name hnames hf) with
        ⟨hlookup, habsent⟩ | ⟨tokens, v', -, hstands, hreads, hlookup⟩
      · rw [hlookup] at hv
        exact .missing habsent hv
      · rw [hlookup] at hv
        obtain rfl : v' = v := Option.some.inj hv
        exact .once hstands hreads

/-- The cells of an array are those of the fields in order. -/
theorem forall₂_of_readArray_eq_ok {ending : Ending} {fields : List Field} {cells : List Cell}
    {values : List Value} (hfull : ∀ f ∈ fields, f.mayLack = false) (hwhole : ∀ c ∈ cells, c.IsWhole)
    (h : readArray ending fields cells = .ok values) :
    List.Forall₂ (fun f tokens => ∃ v, f.kind.Reads tokens v) fields (cells.map Cell.tokens) := by
  induction fields generalizing cells values with
  | nil =>
    cases cells with
    | nil => exact .nil
    | cons c cells => exact absurd h nofun
  | cons f fields ih =>
    obtain ⟨hf, hfields⟩ := List.forall_mem_cons.mp hfull
    cases cells with
    | nil =>
      unfold readArray at h
      split at h
      · exact absurd h nofun
      · rw [hf] at h
        exact absurd h nofun
    | cons c cells =>
      obtain ⟨hc, hcells⟩ := List.forall_mem_cons.mp hwhole
      rw [readArray] at h
      split at h
      next v hread =>
        obtain ⟨rest, hrest, -⟩ := map_eq_ok_iff.mp h
        exact .cons ⟨v, Kind.reads_of_read hc.1 hread⟩ (ih hfields hcells hrest)
      · exact absurd h nofun

/-- **A record that is read from an array** has its fields in order, if it may not lack any. -/
theorem of_read_array {fields : List Field} {values : List Value} (hfull : ∀ f ∈ fields, f.mayLack = false)
    (h : read fields (.openBracket :: ts) = .ok values) :
    ∃ items : List (List Token), (∀ v ∈ items, Whole v) ∧ .openBracket :: ts = arrayTokens items ∧
      List.Forall₂ (fun f tokens => ∃ v, f.kind.Reads tokens v) fields items := by
  rw [read] at h
  cases hcut : cutFrom false .first ts with
  | mk cells ending =>
    rw [hcut] at h
    obtain ⟨rfl, hread⟩ := of_finish_eq_ok h
    obtain ⟨hwhole, hts⟩ := of_cutFrom_array hcut
    refine ⟨cells.map Cell.tokens, ?_, hts.trans (List.append_nil _),
      forall₂_of_readArray_eq_ok hfull hwhole hread⟩
    exact List.forall_mem_map.mpr fun c hc => (hwhole c hc).2

end Gatehouse.Json.Record

import Gatehouse.Json.Reader
import Gatehouse.Proofs.Assoc

/-!
# The grammar of JSON values

Which tokens spell which value is said by a grammar, without the reader and its stack (`Json.Spells`). In an
object a key may come again: it keeps its first place and its last value (`Assoc.Merges`).

## Main results

* `Spells.reads`: the reader goes over the tokens of a value at once, inside whatever is open, as long as
  there is room for what the value opens itself.
* `Machine.Consumed.step`, `Machine.Consumed.run`: conversely, whatever the reader has taken so far is
  accounted for by what it holds.
* `ofTokens?_eq_some_iff`: so a value is read exactly from the tokens that spell it.
* `distinctKeys_of_parse?`: in whatever is read, each object has every key once.
-/

namespace Gatehouse.Json

/-! ### The grammar -/

/-- Lists of tokens with commas between them. -/
def separated (lists : List (List Token)) : List Token := [Token.comma].intercalate lists

/-- A value with the tokens that spell it. -/
structure Spelling where
  tokens : List Token
  value : Json

/-- The tokens of a member of an object. -/
def memberTokens (m : String × Spelling) : List Token := .string (some m.1) :: .colon :: m.2.tokens

/-- Some tokens spell a value in which at most `depth` arrays and objects are open at once. -/
inductive Spells : Nat → List Token → Json → Prop
  | null {depth : Nat} : Spells depth [.null] .null
  | bool {depth : Nat} (b : Bool) : Spells depth [.bool b] (.bool b)
  | number {depth : Nat} (n : Number) : Spells depth [.number (some n)] (.number n)
  | string {depth : Nat} (s : String) : Spells depth [.string (some s)] (.string s)
  | array {depth : Nat} {items : List Spelling} (h : ∀ p ∈ items, Spells depth p.tokens p.value) :
      Spells (depth + 1) (.openBracket :: separated (items.map (·.tokens)) ++ [.closeBracket])
        (.array (items.map (·.value)))
  | object {depth : Nat} {members : List (String × Spelling)} {entries : Entries}
      (h : ∀ m ∈ members, Spells depth m.2.tokens m.2.value)
      (merges : Assoc.Merges (members.map fun m => (m.1, m.2.value)) entries) :
      Spells (depth + 1) (.openBrace :: separated (members.map memberTokens) ++ [.closeBrace]) (.object entries)

/-- All but the first list come after a comma. -/
theorem separated_cons (ts : List Token) (lists : List (List Token)) :
    separated (ts :: lists) = ts ++ lists.flatMap (Token.comma :: ·) := by
  induction lists generalizing ts with
  | nil => simp [separated]
  | cons ts' lists ih =>
    have hsplit : separated (ts :: ts' :: lists) = ts ++ [.comma] ++ separated (ts' :: lists) :=
      List.intercalate_cons_cons
    rw [hsplit, ih, List.flatMap_cons, List.append_assoc]
    rfl

/-- All but the last list come before a comma. -/
theorem separated_concat (lists : List (List Token)) (ts : List Token) :
    separated (lists ++ [ts]) = lists.flatMap (· ++ [Token.comma]) ++ ts := by
  induction lists with
  | nil => simp [separated]
  | cons first lists ih =>
    obtain ⟨second, rest, hrest⟩ := List.exists_cons_of_ne_nil (List.append_ne_nil_of_right_ne_nil lists
      (List.cons_ne_nil ts []))
    have hsplit : separated (first :: second :: rest) = first ++ [.comma] ++ separated (second :: rest) :=
      List.intercalate_cons_cons
    rw [List.cons_append, hrest, hsplit, ← hrest, ih, List.flatMap_cons, List.append_assoc, List.append_assoc]
    simp

/-! ### Spelled values are read -/

namespace Machine

/-- Inside whatever is open, the reader takes these tokens for this value, if there is room for what the
value opens itself. -/
def Reads (depth : Nat) (ts : List Token) (v : Json) : Prop :=
  ∀ (frames : List Frame) (rest : List Token), frames.length + depth ≤ depthLimit →
    run ⟨frames, .value⟩ (ts ++ rest) = run ⟨frames, .separator v⟩ rest

variable {frames : List Frame} {depth : Nat} {rest : List Token}

theorem run_cons {m next : Machine} {t : Token} (h : m.step t = some next) (rest : List Token) :
    m.run (t :: rest) = next.run rest := by
  rw [run, h, Option.bind_some]

/-- The items of an array after the first, to its end. -/
theorem run_items {items : List Spelling} (h : ∀ p ∈ items, Reads depth p.tokens p.value)
    (hroom : frames.length + (depth + 1) ≤ depthLimit) (before : List Json) (last : Json) :
    run ⟨.array before :: frames, .separator last⟩
        ((items.map (·.tokens)).flatMap (Token.comma :: ·) ++ .closeBracket :: rest) =
      run ⟨frames, .separator (.array ((last :: before).reverse ++ items.map (·.value)))⟩ rest := by
  induction items generalizing before last with
  | nil =>
    rw [List.map_nil, List.map_nil, List.flatMap_nil, List.append_nil]
    exact run_cons rfl rest
  | cons p items ih =>
    have hlength : (Frame.array (last :: before) :: frames).length + depth ≤ depthLimit := by
      rw [List.length_cons]
      omega
    rw [List.map_cons, List.flatMap_cons, List.append_assoc, List.cons_append, run_cons rfl,
      h p List.mem_cons_self _ _ hlength, ih fun q hq => h q (List.mem_cons_of_mem p hq)]
    simp

/-- The members of an object after the value of the first, to its end. -/
theorem run_members {members : List (String × Spelling)} {written current entries : Entries} {key : String}
    {last : Json} (h : ∀ m ∈ members, Reads depth m.2.tokens m.2.value)
    (hroom : frames.length + (depth + 1) ≤ depthLimit) (hcurrent : Assoc.Merges written current)
    (hentries : Assoc.Merges (written ++ (key, last) :: members.map fun m => (m.1, m.2.value)) entries) :
    run ⟨.object current key :: frames, .separator last⟩
        ((members.map memberTokens).flatMap (Token.comma :: ·) ++ .closeBrace :: rest) =
      run ⟨frames, .separator (.object entries)⟩ rest := by
  induction members generalizing written current key last with
  | nil =>
    rw [hentries.unique (hcurrent.concat key last)]
    exact run_cons rfl rest
  | cons m members ih =>
    obtain ⟨k, p⟩ := m
    have hlength : (Frame.object (Assoc.put key last current) k :: frames).length + depth ≤ depthLimit := by
      rw [List.length_cons]
      omega
    rw [List.map_cons, List.append_cons] at hentries
    rw [List.map_cons, List.flatMap_cons, List.append_assoc, List.cons_append, run_cons rfl, memberTokens,
      List.cons_append, run_cons rfl, List.cons_append, run_cons rfl, h _ List.mem_cons_self _ _ hlength]
    exact ih (fun q hq => h q (List.mem_cons_of_mem _ hq)) (hcurrent.concat key last) hentries

end Machine

/-- A value does not begin with the end of an array. -/
theorem Spells.exists_cons {depth : Nat} {ts : List Token} {v : Json} (h : Spells depth ts v) :
    ∃ t ts', ts = t :: ts' ∧ t ≠ .closeBracket := by
  cases h <;> exact ⟨_, _, rfl, nofun⟩

/-- **The tokens of a value are read as it.** -/
theorem Spells.reads {depth : Nat} {ts : List Token} {v : Json} (h : Spells depth ts v) :
    Machine.Reads depth ts v := by
  induction h with
  | null | bool | number | string => exact fun frames rest _ => Machine.run_cons rfl rest
  | @array depth items hspells ih =>
    intro frames rest hroom
    have hfree : frames.length < depthLimit := by omega
    have hopen : Machine.step ⟨frames, .value⟩ .openBracket = some ⟨.array [] :: frames, .valueOrClose⟩ :=
      if_pos hfree
    rw [List.cons_append, List.cons_append, Machine.run_cons hopen, List.append_assoc]
    cases items with
    | nil => exact Machine.run_cons rfl rest
    | cons p items =>
      -- the first token of the first item does not end the array
      obtain ⟨t, ts, hts, hne⟩ := (hspells p List.mem_cons_self).exists_cons
      have hfirst (rest : List Token) : Machine.run ⟨.array [] :: frames, .valueOrClose⟩ (p.tokens ++ rest) =
          Machine.run ⟨.array [] :: frames, .value⟩ (p.tokens ++ rest) := by
        have hstep : Machine.step ⟨.array [] :: frames, .valueOrClose⟩ t =
            Machine.step ⟨.array [] :: frames, .value⟩ t := by
          cases t with
          | closeBracket => exact absurd rfl hne
          | _ => rfl
        rw [hts, List.cons_append, Machine.run, Machine.run, hstep]
      have hlength : (Frame.array [] :: frames).length + depth ≤ depthLimit := by
        rw [List.length_cons]
        omega
      rw [List.map_cons, separated_cons, List.append_assoc, hfirst, ih p List.mem_cons_self _ _ hlength]
      exact Machine.run_items (fun q hq => ih q (List.mem_cons_of_mem p hq)) hroom [] p.value
  | @object depth members entries hspells hmerges ih =>
    intro frames rest hroom
    have hfree : frames.length < depthLimit := by omega
    have hopen : Machine.step ⟨frames, .value⟩ .openBrace = some ⟨frames, .key [] true⟩ := if_pos hfree
    rw [List.cons_append, List.cons_append, Machine.run_cons hopen, List.append_assoc]
    cases members with
    | nil =>
      rw [hmerges.unique .nil]
      exact Machine.run_cons rfl rest
    | cons m members =>
      obtain ⟨k, p⟩ := m
      have hlength : (Frame.object [] k :: frames).length + depth ≤ depthLimit := by
        rw [List.length_cons]
        omega
      rw [List.map_cons, separated_cons, List.append_assoc, memberTokens, List.cons_append, Machine.run_cons rfl,
        List.cons_append, Machine.run_cons rfl, ih _ List.mem_cons_self _ _ hlength]
      exact Machine.run_members (fun q hq => ih q (List.mem_cons_of_mem _ hq)) hroom .nil hmerges

/-! ### What is read is spelled -/

namespace Machine

/-- Some tokens begin an object inside some frames, with members that each have a comma after them: the
entries are what these are brought together to. -/
structure OpensObject (frames : List Frame) (entries : Entries) (members : List (String × Spelling)) : Prop where
  room : frames.length < depthLimit
  spells : ∀ m ∈ members, Spells (depthLimit - (frames.length + 1)) m.2.tokens m.2.value
  merges : Assoc.Merges (members.map fun m => (m.1, m.2.value)) entries

/-- The tokens of an object that has begun, after some members. -/
def objectTokens (members : List (String × Spelling)) : List Token :=
  .openBrace :: (members.map memberTokens).flatMap (· ++ [Token.comma])

/-- The tokens of an array that has begun, after some items. -/
def arrayTokens (items : List Spelling) : List Token :=
  .openBracket :: (items.map (·.tokens)).flatMap (· ++ [Token.comma])

theorem arrayTokens_concat (items : List Spelling) (p : Spelling) :
    arrayTokens (items ++ [p]) = arrayTokens items ++ (p.tokens ++ [.comma]) := by
  simp [arrayTokens]

theorem objectTokens_concat (members : List (String × Spelling)) (m : String × Spelling) :
    objectTokens (members ++ [m]) = objectTokens members ++ (memberTokens m ++ [.comma]) := by
  simp [objectTokens]

/-- The tokens with which the open frames began. -/
inductive Opened : List Frame → List Token → Prop
  | nil : Opened [] []
  | array {frames : List Frame} {ts : List Token} {items : List Spelling} (outer : Opened frames ts)
      (room : frames.length < depthLimit)
      (spells : ∀ p ∈ items, Spells (depthLimit - (frames.length + 1)) p.tokens p.value) :
      Opened (.array (items.map (·.value)).reverse :: frames) (ts ++ arrayTokens items)
  | object {frames : List Frame} {ts : List Token} {entries : Entries} {members : List (String × Spelling)}
      (outer : Opened frames ts) (opens : OpensObject frames entries members) (key : String) :
      Opened (.object entries key :: frames)
        (ts ++ (objectTokens members ++ [.string (some key), .colon]))

/-- All tokens that the reader has taken so far are accounted for by what it holds. -/
inductive Consumed : Machine → List Token → Prop
  | value {frames : List Frame} {ts : List Token} (outer : Opened frames ts) : Consumed ⟨frames, .value⟩ ts
  | valueOrClose {frames : List Frame} {ts : List Token} (outer : Opened frames ts)
      (room : frames.length < depthLimit) :
      Consumed ⟨.array [] :: frames, .valueOrClose⟩ (ts ++ arrayTokens [])
  | key {frames : List Frame} {ts : List Token} {entries : Entries} {members : List (String × Spelling)}
      {mayClose : Bool} (outer : Opened frames ts) (opens : OpensObject frames entries members)
      -- only before the first member may the object end here: there is no comma at its end
      (begins : mayClose = true → members = []) :
      Consumed ⟨frames, .key entries mayClose⟩ (ts ++ objectTokens members)
  | colon {frames : List Frame} {ts : List Token} {entries : Entries} {members : List (String × Spelling)}
      (outer : Opened frames ts) (opens : OpensObject frames entries members) (key : String) :
      Consumed ⟨frames, .colon entries key⟩ (ts ++ (objectTokens members ++ [.string (some key)]))
  | separator {frames : List Frame} {ts ts' : List Token} {v : Json} (outer : Opened frames ts)
      (spells : Spells (depthLimit - frames.length) ts' v) :
      Consumed ⟨frames, .separator v⟩ (ts ++ ts')

variable {m m' : Machine} {t : Token} {ts ts' : List Token} {frames : List Frame} {entries : Entries}
  {members : List (String × Spelling)}

/-- What is left of the room below an array or object is one less. -/
theorem room_eq (h : frames.length < depthLimit) :
    depthLimit - frames.length = depthLimit - (frames.length + 1) + 1 := by
  omega

/-- One more item. -/
theorem spells_concat {depth : Nat} {items : List Spelling} {p : Spelling}
    (h : ∀ q ∈ items, Spells depth q.tokens q.value) (hp : Spells depth p.tokens p.value) :
    ∀ q ∈ items ++ [p], Spells depth q.tokens q.value :=
  List.forall_mem_append.mpr ⟨h, fun _ hq => List.mem_singleton.mp hq ▸ hp⟩

/-- A whole array that has an item. -/
theorem spells_array {items : List Spelling} {p : Spelling} (room : frames.length < depthLimit)
    (h : ∀ q ∈ items, Spells (depthLimit - (frames.length + 1)) q.tokens q.value)
    (hp : Spells (depthLimit - (frames.length + 1)) p.tokens p.value) :
    Spells (depthLimit - frames.length) (arrayTokens items ++ (p.tokens ++ [.closeBracket]))
      (.array (p.value :: (items.map (·.value)).reverse).reverse) := by
  have harray := Spells.array (spells_concat h hp)
  rw [List.map_append, List.map_singleton, separated_concat, List.map_append, List.map_singleton] at harray
  rw [room_eq room, List.reverse_cons, List.reverse_reverse, arrayTokens, List.cons_append, ← List.append_assoc]
  exact harray

/-- One more member. -/
theorem OpensObject.concat (h : OpensObject frames entries members) (key : String) {p : Spelling}
    (hp : Spells (depthLimit - (frames.length + 1)) p.tokens p.value) :
    OpensObject frames (Assoc.put key p.value entries) (members ++ [(key, p)]) where
  room := h.room
  spells m hm := by
    rcases List.mem_append.mp hm with hm | hm
    · exact h.spells m hm
    · obtain rfl := List.mem_singleton.mp hm
      exact hp
  merges := by
    rw [List.map_append]
    exact h.merges.concat key p.value

/-- A whole object that has a member. -/
theorem OpensObject.spells_object (h : OpensObject frames entries members) (key : String) {p : Spelling}
    (hp : Spells (depthLimit - (frames.length + 1)) p.tokens p.value) :
    Spells (depthLimit - frames.length) (objectTokens members ++ (memberTokens (key, p) ++ [.closeBrace]))
      (.object (Assoc.put key p.value entries)) := by
  have hall := h.concat key hp
  have hobject := Spells.object hall.spells hall.merges
  rw [List.map_append, List.map_singleton, separated_concat] at hobject
  rw [room_eq h.room, objectTokens, List.cons_append, ← List.append_assoc]
  exact hobject

namespace Consumed

/-- The beginning of a value. -/
theorem begin (outer : Opened frames ts) (h : Machine.begin frames t = some m') : Consumed m' (ts ++ [t]) := by
  unfold Machine.begin at h
  split at h
  case h_1 => exact Option.some.inj h ▸ .separator outer .null
  case h_2 b => exact Option.some.inj h ▸ .separator outer (.bool b)
  case h_3 s => exact Option.some.inj h ▸ .separator outer (.string s)
  case h_4 n => exact Option.some.inj h ▸ .separator outer (.number n)
  case h_5 =>
    obtain ⟨room, ⟨⟩⟩ := Option.ite_none_right_eq_some.mp h
    exact .valueOrClose outer room
  case h_6 =>
    obtain ⟨room, ⟨⟩⟩ := Option.ite_none_right_eq_some.mp h
    have hnone : OpensObject frames [] [] := ⟨room, nofun, .nil⟩
    exact .key outer hnone fun _ => rfl
  case h_7 => exact absurd h (by simp)

/-- **One token.** -/
theorem step (hm : Consumed m ts) (h : m.step t = some m') : Consumed m' (ts ++ [t]) := by
  cases hm with
  | value outer => exact begin outer h
  | @valueOrClose frames ts outer room =>
    cases t with
    | closeBracket =>
      obtain ⟨⟩ := h
      have hempty : Spells (depthLimit - frames.length) [.openBracket, .closeBracket] (.array []) := by
        rw [room_eq room]
        exact Spells.array (nofun : ∀ p ∈ ([] : List Spelling), _)
      rw [List.append_assoc]
      exact .separator outer hempty
    | _ => exact begin (.array outer room (nofun : ∀ p ∈ ([] : List Spelling), _)) h
  | @key frames ts entries members mayClose outer opens begins =>
    rw [List.append_assoc]
    cases t with
    | closeBrace =>
      cases mayClose with
      | true =>
        obtain rfl : _ = m' := Option.some.inj h
        obtain rfl := begins rfl
        have hempty := Spells.object opens.spells opens.merges
        rw [← room_eq opens.room] at hempty
        exact .separator outer hempty
      | false => nomatch h
    | string text =>
      cases text with
      | some k =>
        have hnext : Machine.step ⟨frames, .key entries mayClose⟩ (.string (some k)) =
            some ⟨frames, .colon entries k⟩ := by cases mayClose <;> rfl
        obtain rfl := Option.some.inj (hnext.symm.trans h)
        exact .colon outer opens k
      | none => cases mayClose <;> nomatch h
    | _ => cases mayClose <;> nomatch h
  | @colon frames ts entries members outer opens key =>
    cases t with
    | colon =>
      obtain rfl : _ = m' := Option.some.inj h
      rw [List.append_assoc, List.append_assoc]
      exact .value (.object outer opens key)
    | _ => nomatch h
  | @separator frames ts ts' v outer spells =>
    -- what may follow a value hangs on the innermost frame
    cases outer with
    | nil => nomatch h
    | @array frames ts items outer room hitems =>
      cases t with
      | comma =>
        obtain rfl : _ = m' := Option.some.inj h
        have hmore := Opened.array outer room (spells_concat (p := ⟨ts', v⟩) hitems spells)
        rw [arrayTokens_concat, List.map_append, List.reverse_append] at hmore
        rw [List.append_assoc, List.append_assoc]
        exact .value hmore
      | closeBracket =>
        obtain rfl : _ = m' := Option.some.inj h
        have harray := Consumed.separator outer (spells_array (p := ⟨ts', v⟩) room hitems spells)
        rw [List.append_assoc, List.append_assoc]
        exact harray
      | _ => nomatch h
    | @object frames ts entries members outer opens key =>
      cases t with
      | comma =>
        obtain rfl : _ = m' := Option.some.inj h
        have hmore := Consumed.key outer (opens.concat key (p := ⟨ts', v⟩) spells) (nofun : false = true → _)
        rw [objectTokens_concat] at hmore
        simpa [memberTokens] using hmore
      | closeBrace =>
        obtain rfl : _ = m' := Option.some.inj h
        have hobject := Consumed.separator outer (opens.spells_object key (p := ⟨ts', v⟩) spells)
        simpa [memberTokens] using hobject
      | _ => nomatch h

/-- Tokens one after the other. -/
theorem run (hm : Consumed m ts) (h : m.run ts' = some m') : Consumed m' (ts ++ ts') := by
  induction ts' generalizing m ts with
  | nil =>
    obtain ⟨⟩ := h
    rwa [List.append_nil]
  | cons t ts' ih =>
    rw [Machine.run, Option.bind_eq_some_iff] at h
    obtain ⟨next, hnext, hrest⟩ := h
    rw [List.append_cons]
    exact ih (hm.step hnext) hrest

end Consumed

end Machine

/-- **A value is read exactly from the tokens that spell it.** -/
theorem ofTokens?_eq_some_iff {ts : List Token} {v : Json} : ofTokens? ts = some v ↔ Spells depthLimit ts v := by
  rw [ofTokens?, Option.bind_eq_some_iff]
  constructor
  · rintro ⟨m, hrun, hresult⟩
    have hm := (Machine.Consumed.value .nil).run hrun
    unfold Machine.result? at hresult
    split at hresult
    next last =>
      obtain ⟨⟩ := hresult
      cases hm with
      | separator outer spells =>
        cases outer
        exact spells
    · exact absurd hresult (by simp)
  · intro h
    refine ⟨⟨[], .separator v⟩, ?_, rfl⟩
    have hreads := h.reads [] [] (Nat.le_of_eq (Nat.zero_add _))
    rwa [List.append_nil] at hreads

/-- **A text is read as the value that its tokens spell.** -/
theorem parse?_eq_some_iff {text : String} {v : Json} :
    parse? text = some v ↔ Spells depthLimit (Token.ofText text) v := by
  rw [parse?, ofTokens?_eq_some_iff]

/-! ### Distinct keys -/

/-- Every object inside a value has each of its keys once. -/
inductive DistinctKeys : Json → Prop where
  | null : DistinctKeys .null
  | bool (b : Bool) : DistinctKeys (.bool b)
  | number (n : Number) : DistinctKeys (.number n)
  | string (s : String) : DistinctKeys (.string s)
  | array {items : List Json} (h : ∀ v ∈ items, DistinctKeys v) : DistinctKeys (.array items)
  | object {entries : Entries} (hkeys : (entries.map (·.1)).Nodup)
      (h : ∀ e ∈ entries, DistinctKeys e.2) : DistinctKeys (.object entries)

/-- What is spelled has distinct keys. -/
theorem Spells.distinctKeys {depth : Nat} {ts : List Token} {v : Json} (h : Spells depth ts v) :
    v.DistinctKeys := by
  induction h with
  | null => exact .null
  | bool b => exact .bool b
  | number n => exact .number n
  | string s => exact .string s
  | array _ ih =>
    refine .array fun v hv => ?_
    obtain ⟨p, hp, rfl⟩ := List.mem_map.mp hv
    exact ih p hp
  | object _ hmerges ih =>
    refine .object hmerges.nodup fun e he => ?_
    obtain ⟨m, hm, rfl⟩ := List.mem_map.mp (hmerges.mem_written he)
    exact ih m hm

/-- **What is read from a text has distinct keys.** -/
theorem distinctKeys_of_parse? {text : String} {v : Json} (h : parse? text = some v) : v.DistinctKeys :=
  (parse?_eq_some_iff.mp h).distinctKeys

end Gatehouse.Json

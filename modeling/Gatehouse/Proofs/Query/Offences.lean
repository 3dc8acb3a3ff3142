import Gatehouse.Query.Basic
import Gatehouse.Proofs.Filter.Grammar
import Gatehouse.Proofs.FirstFault

/-!
# Where a query offends

A value in a query plays a role: it is a whole parameter, a group, what is asked of a field, an operand, and so on.
The role says what is wrong with a value by itself (`Role.fault?`), and which roles its items and entries play
(`Role.item?`, `Role.entry?`). A value **offends** at a place if what stands there is wrong in its role
(`Role.Offends`); a query offends where the values of its parameters do (`QueryText.Offends`). None of this knows of a
reader.

Places are ordered: the parameters filter, fields, sort, and in each the items and entries in their order. Values and
queries that agree up to a place have the same offences up to it (`Role.Offends.of_agreeUpTo`,
`QueryText.Offends.of_agreeUpTo`).
-/

namespace Gatehouse

namespace Query

/-! ### Roles -/

/-- The parameters that hold JSON. -/
inductive Parameter where
  | filter
  | fields
  | sort
  deriving DecidableEq

namespace Parameter

/-- The name of a parameter. -/
def name : Parameter → String
  | filter => "filter"
  | fields => "fields"
  | sort => "sort"

/-- The order of the parameters. -/
def order : List Parameter := [filter, fields, sort]

end Parameter

/-- The role of a value. -/
inductive Role where
  /-- The whole of a parameter. -/
  | parameter (p : Parameter)
  /-- The group of this name. -/
  | group (name : String)
  /-- A base filter of the group of this name. -/
  | base (name : String)
  /-- What is asked of the field at a path, in the filter itself or in a base filter. -/
  | field (path : String) (inBase : Bool)
  /-- What stands under the name of an operator. -/
  | operator (name : String)
  /-- One of several operands. -/
  | operand (name : String)
  /-- The flag of a path. -/
  | flag (path : String)
  /-- The direction of a path. -/
  | direction (path : String)

namespace Role

/-- What is wrong with an operand that should be a scalar. -/
def scalarFault? (name : String) : Json → Option QueryFault
  | .array _ | .object _ => some (.badOperand name "a scalar")
  | _ => none

/-- What is wrong with what stands under the name of an operator. -/
def operatorFault? (name : String) (v : Json) : Option QueryFault :=
  if name ∈ Filter.listOperators then
    match v with
    | .array _ => none
    | _ => some (.badOperand name "an array")
  else if name ∈ Filter.comparisons then scalarFault? name v
  else if name = "like" then
    match v with
    | .string text => if (Pattern.compile? text).isSome then none else some (.badPattern text)
    | _ => some (.badOperand name "a string pattern")
  else some (.unknownOperator name)

theorem operatorFault?_of_comparison {name : String} (hlist : name ∉ Filter.listOperators)
    (hname : name ∈ Filter.comparisons) (v : Json) : operatorFault? name v = scalarFault? name v := by
  unfold operatorFault?
  rw [if_neg hlist, if_pos hname]

theorem operatorFault?_of_unknown {name : String} (hlist : name ∉ Filter.listOperators)
    (hcomparison : name ∉ Filter.comparisons) (hlike : name ≠ "like") (v : Json) :
    operatorFault? name v = some (.unknownOperator name) := by
  unfold operatorFault?
  rw [if_neg hlist, if_neg hcomparison, if_neg hlike]

/-- What is wrong with a value by itself. -/
def fault? : Role → Json → Option QueryFault
  | .parameter _, .object _ => none
  | .parameter p, _ => some (.notAnObject p.name)
  | .group _, .array (_ :: _) => none
  | .group name, _ => some (.badGroup name)
  | .base _, .object _ => none
  | .base name, _ => some (.badGroup name)
  | .field path inBase, .array _ =>
    some (if inBase && Filter.isGroupKey path then .nestedGroup path else .nonScalar path)
  | .field path _, .object [] => some (.emptyOperators path)
  | .field _ _, _ => none
  | .operator name, v => operatorFault? name v
  | .operand name, v => scalarFault? name v
  | .flag path, v => if (Projection.flag? v).isSome then none else some (.badProjection path)
  | .direction _, .string _ => none
  | .direction path, _ => some (.badSortToken path)

/-- The role of the items of an array, where they play one. -/
def item? : Role → Option Role
  | .group name => some (.base name)
  | .operator name => if name ∈ Filter.listOperators then some (.operand name) else none
  | _ => none

/-- The role of an entry of the filter by its key. -/
def ofFilterKey (key : String) : Role := if Filter.isGroupKey key then .group key else .field key false

/-- The roles of the entries of an object by their keys, where they play any. -/
def entry? : Role → Option (String → Role)
  | .parameter .filter => some ofFilterKey
  | .parameter .fields => some .flag
  | .parameter .sort => some .direction
  | .base _ => some fun key => .field key true
  | .field _ _ => some .operator
  | _ => none

/-- What stands in a value and plays a role, in order. -/
def inside (role : Role) : Json → List (Role × Json)
  | .array items => role.item?.elim [] fun inner => items.map fun v => (inner, v)
  | .object entries => role.entry?.elim [] fun inner => entries.map fun entry => (inner entry.1, entry.2)
  | _ => []

/-- Nothing in a single operand plays a role. -/
theorem inside_operator {name : String} (hlist : name ∉ Filter.listOperators) (v : Json) :
    (Role.operator name).inside v = [] := by
  have hitem : (Role.operator name).item? = none := if_neg hlist
  cases v with
  | array items => rw [inside, hitem, Option.elim]
  | _ => rfl

/-- A value offends at a place in it: it is itself wrong in its role, or something inside it offends. -/
inductive Offends : Role → Json → List Nat → QueryFault → Prop
  | here {role : Role} {v : Json} {e : QueryFault} (fault : role.fault? v = some e) : Offends role v [] e
  | inside {role inner : Role} {v w : Json} {i : Nat} {place : List Nat} {e : QueryFault}
      (found : (role.inside v)[i]? = some (inner, w)) (offence : Offends inner w place e) :
      Offends role v (i :: place) e

/-- What offends inside a list of values with their roles. -/
abbrev OffendIn (vs : List (Role × Json)) : List Nat → QueryFault → Prop := FaultsIn (fun c => Offends c.1 c.2) vs

theorem offends_iff {role : Role} {v : Json} {place : List Nat} {e : QueryFault} :
    Offends role v place e ↔ place = [] ∧ role.fault? v = some e ∨ OffendIn (role.inside v) place e := by
  constructor
  · intro h
    cases h with
    | here fault => exact .inl ⟨rfl, fault⟩
    | inside found offence => exact .inr (.entry found offence)
  · rintro (⟨rfl, fault⟩ | ⟨found, offence⟩)
    · exact .here fault
    · exact .inside found offence

/-- In an array the items offend. -/
theorem offendIn_items_iff {role inner : Role} {items : List Json} (h : role.item? = some inner) {place : List Nat}
    {e : QueryFault} :
    OffendIn (role.inside (.array items)) place e ↔ FaultsIn (Offends inner) items place e := by
  rw [inside, h, Option.elim, OffendIn, faultsIn_map_iff]

/-- In an object the entries offend, each in the role that its key gives it. -/
theorem offendIn_entries_iff {role : Role} {inner : String → Role} {entries : Json.Entries}
    (h : role.entry? = some inner) {place : List Nat} {e : QueryFault} :
    OffendIn (role.inside (.object entries)) place e ↔
      FaultsIn (fun c : String × Json => Offends (inner c.1) c.2) entries place e := by
  rw [inside, h, Option.elim, OffendIn, faultsIn_map_iff]

end Role

/-- A text that is sent for a parameter offends at a place: it is no JSON, or the value that it spells
offends. Where a key of the text comes again, this value has it in its first place and with its last value. -/
inductive TextOffends (p : Parameter) (text : String) : List Nat → QueryFault → Prop
  | malformed (h : ∀ v, ¬ Json.Spells Json.depthLimit (Json.Token.ofText text) v) :
      TextOffends p text [] (.malformed text)
  | within {v : Json} {place : List Nat} {e : QueryFault}
      (spelled : Json.Spells Json.depthLimit (Json.Token.ofText text) v)
      (offence : Role.Offends (.parameter p) v place e) : TextOffends p text place e

/-- A text that spells a value offends where the value does. -/
theorem textOffends_iff_of_spells {p : Parameter} {text : String} {v : Json}
    (h : Json.Spells Json.depthLimit (Json.Token.ofText text) v) {place : List Nat} {e : QueryFault} :
    TextOffends p text place e ↔ Role.Offends (.parameter p) v place e := by
  refine ⟨?_, .within h⟩
  rintro (hmalformed | ⟨spelled, offence⟩)
  · exact absurd h (hmalformed v)
  · have hsame := (Json.parse?_eq_some_iff.mpr h).symm.trans (Json.parse?_eq_some_iff.mpr spelled)
    rwa [Option.some.inj hsame]

end Query

open Query (Role Parameter)

namespace QueryText

/-- What was sent for a parameter. -/
def text (t : QueryText) : Parameter → Option String
  | .filter => t.filter
  | .fields => t.fields
  | .sort => t.sort

/-- A parameter offends if it is present and its text does. -/
def OffendsIn (t : QueryText) (p : Parameter) (place : List Nat) (e : QueryFault) : Prop :=
  ∃ text, present (t.text p) = some text ∧ Query.TextOffends p text place e

/-- A query offends at a place: the place of a parameter, and a place in that. -/
abbrev Offends (t : QueryText) : List Nat → QueryFault → Prop := FaultsIn t.OffendsIn Parameter.order

/-- A parameter that spells a value offends where the value does. -/
theorem offendsIn_iff_of_spells {t : QueryText} {p : Parameter} {text : String} {v : Json}
    (hsent : present (t.text p) = some text) (hspells : Json.Spells Json.depthLimit (Json.Token.ofText text) v)
    {place : List Nat} {e : QueryFault} :
    t.OffendsIn p place e ↔ Role.Offends (.parameter p) v place e := by
  rw [← Query.textOffends_iff_of_spells hspells, OffendsIn, hsent]
  simp

end QueryText

/-! ### What comes later does not matter -/

/-- Two values agree up to a place in them: on the way to it they have the same before, and at the place they are the
same. -/
inductive Json.AgreeUpTo : List Nat → Json → Json → Prop
  | here (v : Json) : AgreeUpTo [] v v
  | item {place : List Nat} {v w : Json} (before after after' : List Json) (h : AgreeUpTo place v w) :
      AgreeUpTo (before.length :: place) (.array (before ++ v :: after)) (.array (before ++ w :: after'))
  | entry {place : List Nat} {v w : Json} (before after after' : Json.Entries) (key : String)
      (h : AgreeUpTo place v w) :
      AgreeUpTo (before.length :: place) (.object (before ++ (key, v) :: after))
        (.object (before ++ (key, w) :: after'))

theorem Json.AgreeUpTo.symm {place : List Nat} {v w : Json} (h : AgreeUpTo place v w) : AgreeUpTo place w v := by
  induction h with
  | here v => exact .here v
  | item before after after' _ ih => exact .item before after' after ih
  | entry before after after' key _ ih => exact .entry before after' after key ih

namespace Query.Role

/-- By itself an array that is not empty is wrong or not whatever its items are. -/
theorem fault?_array_append (role : Role) (before after before' after' : List Json) (v w : Json) :
    role.fault? (.array (before ++ v :: after)) = role.fault? (.array (before' ++ w :: after')) := by
  cases role with
  | group name => cases before <;> cases before' <;> rfl
  | _ => rfl

/-- By itself an object that is not empty is wrong or not whatever its entries are. -/
theorem fault?_object_append (role : Role) (before after before' after' : Json.Entries) (p q : String × Json) :
    role.fault? (.object (before ++ p :: after)) = role.fault? (.object (before' ++ q :: after')) := by
  cases role with
  | field path inBase => cases before <;> cases before' <;> rfl
  | _ => rfl

/-- **What comes after a place adds and removes no offence up to it.** -/
theorem Offends.of_agreeUpTo {place : List Nat} {v w : Json} (hagree : v.AgreeUpTo place w) {role : Role}
    {j : List Nat} {e : QueryFault} (hj : ¬ place < j) (h : Offends role v j e) : Offends role w j e := by
  induction hagree generalizing role j e with
  | here v => exact h
  | @item place v w before after after' hagree ih =>
    rw [offends_iff] at h ⊢
    rw [fault?_array_append role before after' before after w v]
    refine h.imp_right fun h => ?_
    cases hitem : role.item? with
    | none =>
      rw [Role.inside, hitem] at h ⊢
      exact h
    | some inner =>
      rw [offendIn_items_iff hitem] at h ⊢
      exact h.of_agree (fun _ _ _ _ h => h) (fun _ _ hj h => ih hj h) hj
  | @entry place v w before after after' key hagree ih =>
    rw [offends_iff] at h ⊢
    rw [fault?_object_append role before after' before after (key, w) (key, v)]
    refine h.imp_right fun h => ?_
    cases hentry : role.entry? with
    | none =>
      rw [Role.inside, hentry] at h ⊢
      exact h
    | some inner =>
      rw [offendIn_entries_iff hentry] at h ⊢
      refine FaultsIn.of_agree (fun _ _ _ _ h => h) ?_ hj h
      exact fun _ _ hj h => ih hj h

end Query.Role

namespace QueryText

/-- Two queries agree up to a place if they have the same parameters before, and there texts of values that agree up
to it. -/
inductive AgreeUpTo (t t' : QueryText) : List Nat → Prop
  | parameter {before after : List Parameter} {p : Parameter} {text text' : String} {v v' : Json}
      {place : List Nat} (order : Parameter.order = before ++ p :: after)
      (same : ∀ q ∈ before, t.text q = t'.text q)
      (sent : present (t.text p) = some text) (sent' : present (t'.text p) = some text')
      (spelled : Json.Spells Json.depthLimit (Json.Token.ofText text) v)
      (spelled' : Json.Spells Json.depthLimit (Json.Token.ofText text') v')
      (agree : v.AgreeUpTo place v') : AgreeUpTo t t' (before.length :: place)

theorem AgreeUpTo.symm {t t' : QueryText} {place : List Nat} (h : AgreeUpTo t t' place) : AgreeUpTo t' t place := by
  obtain ⟨order, same, sent, sent', spelled, spelled', agree⟩ := h
  exact .parameter order (fun q hq => (same q hq).symm) sent' sent spelled' spelled agree.symm

/-- **What comes after a place adds and removes no offence up to it**, in the same parameter or in a later one. -/
theorem Offends.of_agreeUpTo {t t' : QueryText} {place j : List Nat} {e : QueryFault} (hagree : AgreeUpTo t t' place)
    (hj : ¬ place < j) (h : t.Offends j e) : t'.Offends j e := by
  obtain ⟨order, same, sent, sent', spelled, spelled', agree⟩ := hagree
  rw [Offends, order] at h ⊢
  refine h.of_agree ?_ ?_ hj
  · intro q hq j e hoffends
    rwa [OffendsIn, ← same q hq]
  · intro j e hj hoffends
    rw [offendsIn_iff_of_spells sent spelled] at hoffends
    rw [offendsIn_iff_of_spells sent' spelled']
    exact hoffends.of_agreeUpTo agree hj

end QueryText

end Gatehouse

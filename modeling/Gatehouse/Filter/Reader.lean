import Gatehouse.Filter.Expression
import Gatehouse.Json.Reader

/-!
# Reading filters

A filter is the text of a JSON object. A scalar asks for equality; an object is a map of operators; the
keys `or` and `nor` hold groups of base filters, which cannot hold groups themselves. Entries are read
in order and the first that is wrong decides the cause of the refusal.
-/

namespace Gatehouse

/-- Why a query text is refused. What a library refuses comes with the text that it was given. -/
inductive QueryFault where
  | malformed (text : String)
  | notAnObject (parameter : String)
  | badGroup (name : String)
  | nestedGroup (field : String)
  | unknownOperator (name : String)
  | badOperand (operator expected : String)
  | nonScalar (field : String)
  | emptyOperators (field : String)
  | badPattern (pattern : String)
  | badSortToken (field : String)
  | badProjection (field : String)
  deriving DecidableEq, Repr

namespace QueryFault

/-- What the libraries say of the texts that they refuse, where it is known. It hangs on the text alone. -/
structure Details where
  /-- What is said of a text that is no JSON. -/
  json : String → Option String := fun _ => none
  /-- What is said of a pattern that does not compile. -/
  pattern : String → Option String := fun _ => none

/-- A wording, and what a library adds to it. -/
def withDetail (wording : String) : Option String → String
  | some detail => wording ++ ": " ++ detail
  | none => wording

/-- The wording of a fault, with what the libraries add. -/
def message (f : QueryFault) (d : Details := {}) : String :=
  match f with
  | .malformed text => withDetail "malformed JSON" (d.json text)
  | .notAnObject parameter => parameter ++ " must be a JSON object"
  | .badGroup name => "'" ++ name ++ "' must be an array of base filters"
  | .nestedGroup field => "boolean groups cannot be nested (field '" ++ field ++ "')"
  | .unknownOperator name => "unknown operator '" ++ name ++ "'"
  | .badOperand operator expected => "operator '" ++ operator ++ "' expects " ++ expected
  | .nonScalar field => "field '" ++ field ++ "' has a non-scalar value"
  | .emptyOperators field => "field '" ++ field ++ "' has an empty operator map"
  | .badPattern pattern => withDetail "invalid like pattern" (d.pattern pattern)
  | .badSortToken field => "sort direction for '" ++ field ++ "' must be a string"
  | .badProjection field => "projection flag for '" ++ field ++ "' is not an integer"

end QueryFault

/-- The entries of the JSON object that a parameter holds. -/
def readObject (parameter text : String) : Except QueryFault Json.Entries :=
  match Json.parse? text with
  | none => .error (.malformed text)
  | some (.object entries) => .ok entries
  | some _ => .error (.notAnObject parameter)

namespace Filter

/-- The key of the group of which some member must hold. -/
def orKey : String := "or"

/-- The key of the group of which no member may hold. -/
def norKey : String := "nor"

/-- A scalar operand. -/
def readScalar (operator : String) (v : Json) : Except QueryFault Scalar :=
  match Scalar.ofJson? v with
  | some s => .ok s
  | none => .error (.badOperand operator "a scalar")

/-- An array of scalar operands. -/
def readScalars (operator : String) : Json → Except QueryFault (List Scalar)
  | .array items => items.mapM (readScalar operator)
  | _ => .error (.badOperand operator "an array")

/-- The operand of `like`. -/
def readLike (operator : String) : Json → Except QueryFault Like
  | .string text =>
    match Like.ofText? text with
    | some l => .ok l
    | none => .error (.badPattern text)
  | _ => .error (.badOperand operator "a string pattern")

/-- One entry of an operator map. -/
def readOperator (entry : String × Json) : Except QueryFault Operator :=
  let (name, operand) := entry
  match name with
  | "in" => (readScalars name operand).map .oneOf
  | "nin" => (readScalars name operand).map .noneOf
  | "ne" => (readScalar name operand).map .ne
  | "gt" => (readScalar name operand).map .gt
  | "gte" => (readScalar name operand).map .gte
  | "lt" => (readScalar name operand).map .lt
  | "lte" => (readScalar name operand).map .lte
  | "like" => (readLike name operand).map .like
  | _ => .error (.unknownOperator name)

/-- What is asked of a field. -/
def readCondition (path : String) : Json → Except QueryFault Condition
  | .object [] => .error (.emptyOperators path)
  | .object ops => (ops.mapM readOperator).map .operators
  | v =>
    match Scalar.ofJson? v with
    | some s => .ok (.equals s)
    | none => .error (.nonScalar path)

/-- A condition on a field. -/
def readField (entry : String × Json) : Except QueryFault FieldFilter :=
  (readCondition entry.1 entry.2).map (⟨entry.1, ·⟩)

/-- An entry of a base filter, where a group is refused by its own cause. -/
def readMember (entry : String × Json) : Except QueryFault FieldFilter :=
  match entry with
  | (key, .array items) =>
    if key = orKey || key = norKey then .error (.nestedGroup key) else readField (key, .array items)
  | entry => readField entry

/-- A member of a group. -/
def readBase (name : String) : Json → Except QueryFault BaseFilter
  | .object entries => entries.mapM readMember
  | _ => .error (.badGroup name)

/-- A group: an array with at least one base filter. -/
def readGroup (name : String) : Json → Except QueryFault (List BaseFilter)
  | .array [] => .error (.badGroup name)
  | .array items => items.mapM (readBase name)
  | _ => .error (.badGroup name)

/-- Add an entry of the filter object to the filter. -/
def readEntry (e : Expression) (entry : String × Json) : Except QueryFault Expression :=
  if entry.1 = orKey then (readGroup orKey entry.2).map fun g => { e with any := some g }
  else if entry.1 = norKey then (readGroup norKey entry.2).map fun g => { e with nor := some g }
  else (readField entry).map fun f => { e with fields := e.fields ++ [f] }

/-- The filter of a JSON object. -/
def ofEntries (entries : Json.Entries) : Except QueryFault Expression := entries.foldlM readEntry {}

/-- Read the text of a filter. -/
def read (text : String) : Except QueryFault Expression :=
  (readObject "filter" text).bind ofEntries

end Filter

end Gatehouse

import Gatehouse.Json.Basic
import Gatehouse.Instant.Reader
import Gatehouse.Instant.Printer

/-!
# Operands

The operand of a filter is a scalar. A string that reads as an instant is that instant; in a document
for the store an instant is wrapped, `\x7b"$date": text\x7d`, with three digits of the second.

`Scalar.compareWith` orders a value of a document against an operand. Values of different kinds do not
compare, except that a string is read as an instant where the operand is one.
-/

namespace Gatehouse

/-- An operand. -/
inductive Scalar where
  | null
  | bool (b : Bool)
  | number (n : Number)
  | string (s : String)
  | instant (t : Instant)
  deriving DecidableEq, Repr, Inhabited

namespace Scalar

/-- The operand that a JSON value denotes; arrays and objects are none. -/
def ofJson? : Json → Option Scalar
  | .null => some .null
  | .bool b => some (.bool b)
  | .number n => some (.number n)
  | .string s => some <| match Instant.parse? s with
    | some t => .instant t
    | none => .string s
  | .array _ | .object _ => none

/-- The key of the wrapper of instants. -/
def dateKey : String := "$date"

/-- The operand in a document for the store. -/
def toJson : Scalar → Json
  | .null => .null
  | .bool b => .bool b
  | .number n => .number n
  | .string s => .string s
  | .instant t => .object [(dateKey, .string t.renderMillis)]

/-- Order a value of a document against an operand of the same kind. -/
def compareWith (operand : Scalar) (v : Json) : Option Ordering :=
  match v, operand with
  | .null, .null => some .eq
  | .bool a, .bool b => some (compare a b)
  | .number a, .number b => some (a.cmp b)
  | .string a, .string b => some (compare a b)
  | .string a, .instant b => (Instant.parse? a).map (·.cmp b)
  | _, _ => none

end Scalar

end Gatehouse

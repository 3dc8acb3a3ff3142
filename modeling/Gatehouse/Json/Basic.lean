import Gatehouse.Assoc
import Gatehouse.Number.Literal

/-!
# JSON values

A JSON value keeps the entries of an object in order, as an ordered table. `Json.lookup` follows a
dotted path through nested objects.
-/

namespace Gatehouse

/-- A JSON value. -/
inductive Json where
  | null
  | bool (b : Bool)
  | number (n : Number)
  | string (s : String)
  | array (items : List Json)
  | object (entries : List (String × Json))
  deriving Inhabited, Repr

namespace Json

/-- The entries of an object, in order. -/
abbrev Entries := List (String × Json)

/-- The value under a key of an object; nothing for any other value. -/
def field? (key : String) : Json → Option Json
  | .object entries => Assoc.get? key entries
  | _ => none

/-- The segments of a dotted path, at least one. -/
def segments (path : String) : List String :=
  (path.toList.splitOn '.').map String.ofList

/-- Follow segments through nested objects. -/
def follow : List String → Json → Option Json
  | [], v => some v
  | s :: ss, v => (v.field? s).bind (follow ss)

/-- The value at a dotted path. -/
def lookup (path : String) (v : Json) : Option Json := follow (segments path) v

/-- An integer. -/
def ofInt (n : Int) : Json := .number (.int n)

end Json

end Gatehouse

import Gatehouse.Filter.Reader

/-!
# Sorting documents

Documents are compared by sort keys in turn. Values of different kinds follow the order missing or
null, numbers, strings, objects, arrays, booleans; two arrays are not told apart, nor two objects.
-/

namespace Gatehouse

/-- Upwards or downwards. -/
inductive Direction where
  | ascending
  | descending
  deriving DecidableEq, Repr

namespace Direction

/-- The word `asc` in any case is upwards; every other word is downwards. -/
def ofToken (token : String) : Direction :=
  if token.toList.map Char.toLower = ['a', 's', 'c'] then .ascending else .descending

/-- The store's number for a direction. -/
def toInt : Direction → Int
  | .ascending => 1
  | .descending => -1

/-- An ordering as seen in a direction. -/
def apply : Direction → Ordering → Ordering
  | .ascending, o => o
  | .descending, o => o.swap

end Direction

/-- A dotted path and the direction in which its values go. -/
structure SortKey where
  path : String
  direction : Direction
  deriving DecidableEq, Repr

/-- Sort keys, the most important first. -/
abbrev SortOrder := List SortKey

/-- The place of a value's kind in the order. -/
def Json.kindRank : Option Json → Nat
  | none | some .null => 0
  | some (.number _) => 1
  | some (.string _) => 2
  | some (.object _) => 3
  | some (.array _) => 4
  | some (.bool _) => 5

/-- Compare two values for sorting. -/
def Json.compareForSort (a b : Option Json) : Ordering :=
  (compare (kindRank a) (kindRank b)).then <|
    match a, b with
    | some (.number x), some (.number y) => x.cmp y
    | some (.string x), some (.string y) => compare x y
    | some (.bool x), some (.bool y) => compare x y
    | _, _ => .eq

/-- Compare two documents by one key. -/
def SortKey.compareDocs (k : SortKey) (a b : Json) : Ordering :=
  k.direction.apply (Json.compareForSort (a.lookup k.path) (b.lookup k.path))

namespace SortOrder

/-- Compare two documents: the first key that tells them apart decides. -/
def compareDocs : SortOrder → Json → Json → Ordering
  | [], _, _ => .eq
  | k :: ks, a, b => (k.compareDocs a b).then (compareDocs ks a b)

/-- Sort documents; those that no key tells apart keep their order. -/
def sort (keys : SortOrder) (docs : List Json) : List Json :=
  docs.mergeSort fun a b => compareDocs keys a b != .gt

/-- Read the text of a sort parameter. -/
def read (text : String) : Except QueryFault SortOrder := do
  let entries ← readObject "sort" text
  entries.mapM fun
    | (path, .string token) => .ok ⟨path, .ofToken token⟩
    | (path, _) => .error (.badSortToken path)

end SortOrder

end Gatehouse

/-!
# Sets of characters

A set of characters is a list of ranges of code points, in order, apart from each other. All
operations keep that form, so a set has one representation.
-/

namespace Gatehouse.Unicode

/-- A set of code points as ascending ranges with gaps between them. -/
structure CharSet where
  ranges : List (Nat × Nat)
  deriving DecidableEq, Repr, Inhabited

/-- The greatest code point. -/
def lastCodePoint : Nat := 0x10FFFF

namespace CharSet

/-- The empty set. -/
def empty : CharSet := ⟨[]⟩

/-- A code point lies in the set. -/
def mem (s : CharSet) (n : Nat) : Bool := s.ranges.any fun r => r.1 ≤ n && n ≤ r.2

/-- A character lies in the set. -/
def contains (s : CharSet) (c : Char) : Bool := s.mem c.toNat

/-- Join ranges that overlap or touch, of ranges in ascending order of their starts; `low` and `high`
are the range being built. -/
def coalesceFrom (low high : Nat) : List (Nat × Nat) → List (Nat × Nat)
  | [] => [(low, high)]
  | (a, b) :: rest =>
    if a ≤ high + 1 then coalesceFrom low (max high b) rest
    else (low, high) :: coalesceFrom a b rest

/-- Join ranges in ascending order of their starts. -/
def coalesce : List (Nat × Nat) → List (Nat × Nat)
  | [] => []
  | (a, b) :: rest => coalesceFrom a b rest

/-- The set of all code points in some ranges. Empty ranges are left out. -/
def ofRanges (rs : List (Nat × Nat)) : CharSet :=
  ⟨coalesce ((rs.filter fun r => r.1 ≤ r.2).mergeSort fun r t => r.1 ≤ t.1)⟩

/-- One code point. -/
def single (n : Nat) : CharSet := ⟨[(n, n)]⟩

/-- The code points of either set. -/
def union (s t : CharSet) : CharSet := ofRanges (s.ranges ++ t.ranges)

/-- The gaps from a code point on. -/
def gaps (start : Nat) : List (Nat × Nat) → List (Nat × Nat)
  | [] => if start ≤ lastCodePoint then [(start, lastCodePoint)] else []
  | (a, b) :: rest => if start < a then (start, a - 1) :: gaps (b + 1) rest else gaps (b + 1) rest

/-- The code points outside the set. -/
def complement (s : CharSet) : CharSet := ⟨gaps 0 s.ranges⟩

/-- The code points of both sets. -/
def inter (s t : CharSet) : CharSet := (s.complement.union t.complement).complement

/-- The code points of the first set only. -/
def diff (s t : CharSet) : CharSet := s.inter t.complement

/-- The code points of exactly one of the sets. -/
def symmDiff (s t : CharSet) : CharSet := (s.diff t).union (t.diff s)

/-- The ASCII letters in the set in both cases. -/
def asciiFold (s : CharSet) : CharSet :=
  let shifted (low high shift : Nat) (up : Bool) : List (Nat × Nat) :=
    (s.inter ⟨[(low, high)]⟩).ranges.map fun r =>
      if up then (r.1 + shift, r.2 + shift) else (r.1 - shift, r.2 - shift)
  s.union (ofRanges (shifted 0x41 0x5A 0x20 true ++ shifted 0x61 0x7A 0x20 false))

/-- All members are ASCII. -/
def isAscii (s : CharSet) : Bool := s.ranges.all fun r => r.2 < 0x80

end CharSet

/-! ### Tables -/

/-- A row of a table: names separated by blanks, and ranges such as `41-5A 61-7A`. -/
abbrev Row := String × String

/-- The value of a hexadecimal digit. -/
def hexDigit? (c : Char) : Option Nat :=
  if '0' ≤ c ∧ c ≤ '9' then some (c.toNat - '0'.toNat)
  else if 'A' ≤ c ∧ c ≤ 'F' then some (c.toNat - 'A'.toNat + 10)
  else none

/-- Read ranges, latest first. `low` is the start of a range whose end is being read. -/
def readRanges (done : List (Nat × Nat)) (low : Option Nat) (value : Nat) :
    List Char → List (Nat × Nat)
  | [] => (low.getD value, value) :: done
  | c :: cs =>
    match hexDigit? c with
    | some d => readRanges done low (value * 16 + d) cs
    | none =>
      if c = '-' then readRanges done (some value) 0 cs
      else readRanges ((low.getD value, value) :: done) none 0 cs

/-- The set that a row of a table lists. -/
def Row.set (row : Row) : CharSet := CharSet.ofRanges (readRanges [] none 0 row.2.toList)

/-- The names of a row. -/
def Row.names (row : Row) : List String := row.1.splitOn " "

/-- The row of a table with a name. -/
def findRow? (table : List Row) (name : String) : Option Row :=
  table.find? fun row => row.names.contains name

end Gatehouse.Unicode

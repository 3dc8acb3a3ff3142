import Gatehouse.Text.Blank

/-!
# Decimal integers in texts

Whole numbers as people write them into parameters: an optional sign, then digits and nothing else.
-/

namespace Gatehouse.Text

/-- The number that a non-empty list of decimal digits denotes. -/
def digitsValue? (cs : List Char) : Option Nat :=
  if cs.isEmpty || !cs.all Char.isDigit then none
  else some (cs.foldl (fun n c => n * 10 + (c.toNat - '0'.toNat)) 0)

/-- A number below `limit`; a plus sign may stand before it. -/
def unsigned? (limit : Nat) (cs : List Char) : Option Nat :=
  let digits := match cs with
    | '+' :: rest => rest
    | _ => cs
  (digitsValue? digits).filter (· < limit)

/-- A number from `-limit` up to below `limit`, with an optional sign. -/
def signed? (limit : Nat) (cs : List Char) : Option Int :=
  match cs with
  | '-' :: rest => ((digitsValue? rest).filter (· ≤ limit)).map fun n => -(n : Int)
  | _ => (unsigned? limit cs).map fun n => (n : Int)

/-- An unsigned 64-bit number, blanks around it allowed. -/
def count? (s : String) : Option Nat := unsigned? UInt64.size (trim s).toList

/-- A signed 64-bit number, blanks around it allowed. -/
def integer? (s : String) : Option Int := signed? (UInt64.size / 2) (trim s).toList

end Gatehouse.Text

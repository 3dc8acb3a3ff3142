/-!
# Finite doubles

A finite binary64 value is a whole number of **quanta** `2⁻¹⁰⁷⁴` with a sign. Quotients are rounded
to the nearest value whose count of quanta has at most 53 significant bits, and a tie goes to the
even one. The order of doubles is the order of their signed counts, so the two zeros are equal.
-/

namespace Gatehouse

/-- A finite double: `±quanta · 2⁻¹⁰⁷⁴`. -/
structure Double where
  negative : Bool
  quanta : Nat
  deriving DecidableEq, Repr, Inhabited

namespace Double

/-- The number of quanta in one. -/
def one : Nat := 1 <<< 1074

/-- One more than the largest number of quanta of a finite double. -/
def bound : Nat := 1 <<< 2098

/-- The nearest whole number to `num / den`; a tie goes to the even one. -/
def roundDiv (num den : Nat) : Nat :=
  let q := num / den
  let r := num % den
  if 2 * r < den || (2 * r == den && q % 2 == 0) then q else q + 1

/-- How many low bits a count of quanta drops to keep 53. -/
def dropped (quanta : Nat) : Nat := quanta.log2 + 1 - 53

/-- The representable count of quanta nearest to `num / den`. -/
def roundQuanta (num den : Nat) : Nat :=
  let shift := dropped (num / den)
  roundDiv num (den <<< shift) <<< shift

/-- The double nearest to `±num / den` quanta, unless it overflows. -/
def ofQuotient? (negative : Bool) (num den : Nat) : Option Double :=
  let quanta := roundQuanta num den
  if quanta < bound then some ⟨negative, quanta⟩ else none

/-- The signed count of quanta: the key of the order. -/
def key (x : Double) : Int := if x.negative then -(x.quanta : Int) else x.quanta

/-- Compare by value. -/
def cmp (x y : Double) : Ordering := compare x.key y.key

/-- The double nearest to an integer of fewer than a thousand bits. -/
def ofInt (n : Int) : Double := ⟨n < 0, roundQuanta (n.natAbs * one) 1⟩

/-- The double nearest to `10 ^ k`, for `k ≤ 308`. -/
def tenPow (k : Nat) : Double := ⟨false, roundQuanta (Nat.pow 10 k * one) 1⟩

/-- The rounded product, unless it overflows. -/
def mul? (x y : Double) : Option Double :=
  ofQuotient? (x.negative != y.negative) (x.quanta * y.quanta) one

/-- The rounded quotient by a double that is not zero. -/
def div (x y : Double) : Double :=
  ⟨x.negative != y.negative, roundQuanta (x.quanta * one) y.quanta⟩

/-- The opposite sign. -/
def neg (x : Double) : Double := { x with negative := !x.negative }

/-- The largest power of ten with a double. -/
def maxTenPow : Nat := 308

/-- `significand · 10 ^ exponent`, computed with one rounding of the significand, one for each
division by `10 ^ 308` that a very small exponent needs, and one for the last power of ten.
`rounds` bounds those divisions: after two of them nothing is left of a 64-bit significand. -/
def scale? (x : Double) (exponent : Int) : (rounds : Nat) → Option Double
  | 0 => some ⟨x.negative, 0⟩
  | rounds + 1 =>
    if exponent.natAbs ≤ maxTenPow then
      if 0 ≤ exponent then x.mul? (tenPow exponent.natAbs)
      else some (x.div (tenPow exponent.natAbs))
    else if x.quanta = 0 then some x
    else if 0 ≤ exponent then none
    else scale? (x.div (tenPow maxTenPow)) (exponent + maxTenPow) rounds

/-- The double read from a 64-bit significand and a decimal exponent; `none` when it overflows. -/
def ofDecimal? (significand : Nat) (exponent : Int) : Option Double :=
  (ofInt significand).scale? exponent 3

end Double

end Gatehouse

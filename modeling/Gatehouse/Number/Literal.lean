import Gatehouse.Number.Double

/-!
# Number literals

A number is an integer that fits 64 bits, signed or unsigned, or a finite double. `Literal.value?`
reads a decimal literal: digits are gathered as long as they fit 64 bits, later ones count only
toward the exponent, and a literal with a fraction, an exponent, a minus before zero or too many
digits is a double.
-/

namespace Gatehouse

/-- A number of a document: an integer from `-2⁶³` to `2⁶⁴ - 1`, or a double. -/
inductive Number where
  | int (n : Int)
  | real (x : Double)
  deriving DecidableEq, Repr, Inhabited

/-- The value as a double, rounded to nearest. -/
def Number.toDouble : Number → Double
  | .int n => Double.ofInt n
  | .real x => x

/-- Compare two numbers as doubles. -/
def Number.cmp (a b : Number) : Ordering := a.toDouble.cmp b.toDouble

/-- The parts of a decimal literal. -/
structure Literal where
  negative : Bool
  /-- The digits before the point. -/
  whole : List Nat
  /-- The digits after the point, if there is one. -/
  fraction : Option (List Nat)
  /-- The sign (true for minus) and digits of the exponent, if there is one. -/
  exponent : Option (Bool × List Nat)
  deriving DecidableEq, Repr

namespace Literal

/-- Gather digits onto `acc` while the result stays below `limit`; the rest is handed back. -/
def gather (limit acc : Nat) : List Nat → Nat × List Nat
  | [] => (acc, [])
  | d :: ds => if acc * 10 + d < limit then gather limit (acc * 10 + d) ds else (acc, d :: ds)

/-- The exponents that fit 32 bits. -/
def exponentLimit : Nat := 0x80000000

/-- The value of a literal; `none` when it is too large for a double. -/
def value? (l : Literal) : Option Number :=
  let (whole, overflow) := gather UInt64.size 0 l.whole
  if l.fraction.isNone && l.exponent.isNone && overflow.isEmpty &&
      (!l.negative || (0 < whole && whole ≤ 0x8000000000000000)) then
    some (.int (if l.negative then -(whole : Int) else whole))
  else
    let fraction := l.fraction.getD []
    let (significand, ignored) := gather UInt64.size whole fraction
    let start : Int := (overflow.length : Int) - ((fraction.length : Int) - ignored.length)
    let signed (x : Double) : Number := .real (if l.negative then x.neg else x)
    match l.exponent with
    | none => (Double.ofDecimal? significand start).map signed
    | some (minus, digits) =>
      match gather exponentLimit 0 digits with
      | (e, []) => (Double.ofDecimal? significand (if minus then start - e else start + e)).map signed
      | (_, _ :: _) =>
        if significand ≠ 0 && !minus then none else some (signed ⟨false, 0⟩)

end Literal

end Gatehouse

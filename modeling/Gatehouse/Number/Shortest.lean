import Gatehouse.Number.Double

/-!
# The fewest digits that read back

`Double.shortest x` gives the decimal digits of the shortest decimal that lies in the interval of
reals that round to `x`; of several it takes the nearest. `Double.render` lays the digits out:
positional from `0.00001` up to fewer than seventeen digits before the point, always with a point,
and with a signed exponent elsewhere.
-/

namespace Gatehouse.Double

/-- The number of decimal digits of a number; none for zero. -/
def decimalLength (n : Nat) : Nat :=
  if h : n = 0 then 0 else decimalLength (n / 10) + 1
termination_by n
decreasing_by omega

/-- A positive decimal `0.d₁d₂… · 10 ^ point`, the digits as one number without trailing zeros. -/
structure Decimal where
  digits : Nat
  point : Int
  deriving DecidableEq, Repr

/-- Drop trailing zeros; the place of the point is kept as the distance from the first digit. -/
def stripZeros (fuel n : Nat) : Nat :=
  match fuel with
  | 0 => n
  | fuel + 1 => if n % 10 = 0 && n ≠ 0 then stripZeros fuel (n / 10) else n

/-- Where the first digit of `num / den` stands: the `k` with `10^(k-1) ≤ num/den < 10^k`. -/
def firstPlace (num den : Nat) : Int :=
  if den ≤ num then decimalLength (num / den)
  else 1 - (decimalLength ((den + num - 1) / num - 1) : Int)

/-- The two multiples of `10 ^ (place - count)` around `num / den`, scaled to whole numbers, with
the common denominator that scales `num / den` alike. -/
structure Grid where
  /-- The candidate below. -/
  lower : Nat
  /-- `num · scaleUp` and `step`: the value is `value / step` grid steps. -/
  value : Nat
  step : Nat
  /-- By how much quanta were multiplied to reach `value`. -/
  factor : Nat

/-- The grid of decimals with `count` digits at the magnitude of `quanta`, in quarters of quanta. -/
def grid (quanta : Nat) (place : Int) (count : Nat) : Grid :=
  let e := place - count
  let factor := Nat.pow 10 (-e).toNat
  let step := Nat.pow 10 e.toNat * one * 4
  ⟨quanta * 4 * factor / step, quanta * 4 * factor, step, factor⟩

/-- Half the gap below and above a count of quanta, in quarters of quanta. The gap below a power of
two is half as wide. -/
def halfGaps (quanta : Nat) : Nat × Nat :=
  let shift := dropped quanta
  let above := 2 <<< shift
  let below := if 0 < shift && quanta >>> shift == 1 <<< 52 then above / 2 else above
  (below, above)

/-- Whether the ends of the rounding interval round to the value itself. -/
def endsIncluded (quanta : Nat) : Bool := (quanta >>> dropped quanta) % 2 == 0

/-- Whether `candidate` grid steps lie in the rounding interval of `quanta`. -/
def Grid.hits (g : Grid) (quanta candidate : Nat) : Bool :=
  let (below, above) := halfGaps quanta
  let x := candidate * g.step
  let low := g.value - below * g.factor
  let high := g.value + above * g.factor
  if endsIncluded quanta then low ≤ x && x ≤ high else low < x && x < high

/-- The nearest candidate of a grid that reads back, if one does. -/
def Grid.best? (g : Grid) (quanta : Nat) : Option Nat :=
  let down := g.value - g.lower * g.step
  let up := (g.lower + 1) * g.step - g.value
  match 0 < g.lower && g.hits quanta g.lower, g.hits quanta (g.lower + 1) with
  | true, true =>
    some (if down < up || (down == up && g.lower % 2 == 0) then g.lower else g.lower + 1)
  | true, false => some g.lower
  | false, true => some (g.lower + 1)
  | false, false => none

/-- The first grid with a candidate that reads back, from `count` digits on. -/
def search (quanta : Nat) (place : Int) (count : Nat) : (more : Nat) → Decimal
  | 0 => ⟨0, 0⟩
  | more + 1 =>
    match (grid quanta place count).best? quanta with
    | some n =>
      let length := decimalLength n
      ⟨stripZeros length n, place + (length - count : Int)⟩
    | none => search quanta place (count + 1) more

/-- The shortest decimal that reads back as a positive count of quanta. Seventeen digits always
do. -/
def shortest (quanta : Nat) : Decimal :=
  search quanta (firstPlace quanta one) 1 17

/-- Positional notation runs from this place of the point … -/
def leastPoint : Int := -4

/-- … to this one. -/
def greatestPoint : Int := 16

/-- `count` zeros. -/
def zeros (count : Nat) : String := String.ofList (List.replicate count '0')

/-- Lay out a positive decimal. -/
def Decimal.render (d : Decimal) : String :=
  let text := toString d.digits
  let size : Int := text.length
  if size ≤ d.point && d.point ≤ greatestPoint then
    text ++ zeros (d.point - size).toNat ++ ".0"
  else if 0 < d.point && d.point ≤ greatestPoint then
    String.ofList (text.toList.take d.point.toNat) ++ "." ++
      String.ofList (text.toList.drop d.point.toNat)
  else if leastPoint ≤ d.point && d.point ≤ 0 then
    "0." ++ zeros (-d.point).toNat ++ text
  else
    let exponent := d.point - 1
    let mantissa := match text.toList with
      | [] => ""
      | [c] => String.ofList [c]
      | c :: cs => String.ofList (c :: '.' :: cs)
    mantissa ++ "e" ++ (if exponent < 0 then "-" else "+") ++ toString exponent.natAbs

/-- The text of a double. -/
def render (x : Double) : String :=
  (if x.negative then "-" else "") ++
    if x.quanta = 0 then "0.0" else (shortest x.quanta).render

end Gatehouse.Double

import ReportCompiler.Decimal.Binary64

/-!
# The fewest digits that read back

A finite number stands for the interval of reals that round to it.  Its shortest decimal is the one
with the fewest digits inside that interval; of two with that many digits the nearer one is taken,
and of two equally near the upper one.

On each grid of decimals only the two neighbours of the value have to be tested: if any point of the
grid lies in the interval, so does one of them.
-/

namespace ReportCompiler.Decimal

/-- The interval of reals that round to a positive number, over a common denominator. -/
structure Interval where
  /-- Numerator of the lower end. -/
  low : Nat
  /-- Numerator of the number itself. -/
  value : Nat
  /-- Numerator of the upper end. -/
  high : Nat
  /-- The common denominator. -/
  den : Nat
  /-- The ends themselves round to the number. -/
  closed : Bool
  deriving DecidableEq, Repr

/-- The interval of `m * 2 ^ e`.  Below a power of two the next number is half as far away as above
it, and the ends belong to the interval when the mantissa is even. -/
def Interval.of (m : Nat) (e : Int) : Interval :=
  let down := if m = Binary64.hiddenBit && Binary64.minExponent < e then 1 else 2
  let (unit, den) := Binary64.ratio 1 (e - 2)
  ⟨(4 * m - down) * unit, 4 * m * unit, (4 * m + 2) * unit, den, m % 2 == 0⟩

/-- The decimal order of `num / den`: the `p` with `10 ^ (p - 1) ≤ num / den < 10 ^ p`. -/
def decimalOrder (num den : Nat) : Int :=
  if den ≤ num then digitCount (num / den)
  else 1 - (digitCount ((den + num - 1) / num - 1) : Int)

/-- The point `a` of the grid of step `10 ^ k`, compared with a numerator of the interval: `a * 10 ^
k` over the interval's denominator, and the factor that the numerators take. -/
def gridPoint (i : Interval) (k : Int) (a : Nat) : Nat × Nat :=
  if 0 ≤ k then (a * tenTo k.toNat * i.den, 1) else (a * i.den, tenTo (-k).toNat)

/-- The point `a` of the grid of step `10 ^ k` lies in the interval, which it may only leave below.
-/
def aboveLow (i : Interval) (k : Int) (a : Nat) : Bool :=
  let (p, f) := gridPoint i k a
  i.low * f < p || (i.closed && p == i.low * f)

/-- The point `a` of the grid of step `10 ^ k` lies in the interval, which it may only leave above.
-/
def belowHigh (i : Interval) (k : Int) (a : Nat) : Bool :=
  let (p, f) := gridPoint i k a
  p < i.high * f || (i.closed && p == i.high * f)

/-- The point of the grid of step `10 ^ k` just below the value. -/
def gridFloor (i : Interval) (k : Int) : Nat :=
  if 0 ≤ k then i.value / (i.den * tenTo k.toNat) else i.value * tenTo (-k).toNat / i.den

/-- The upper neighbour `a + 1` is at least as near to the value as `a`. -/
def upperNearer (i : Interval) (k : Int) (a : Nat) : Bool :=
  let (p, f) := gridPoint i k (2 * a + 1)
  p ≤ 2 * (i.value * f)

/-- The decimal of the grid of step `10 ^ k` to write for the interval's value, if one lies in it.
-/
def gridHit? (i : Interval) (k : Int) : Option Nat :=
  let a := gridFloor i k
  match aboveLow i k a, belowHigh i k (a + 1) with
  | true, true => some (if upperNearer i k a then a + 1 else a)
  | true, false => some a
  | false, true => some (a + 1)
  | false, false => none

/-- The first hit on the grids of `order - n`, `order - n - 1`, …, `fuel` of them. -/
def firstHit (i : Interval) (order : Int) : Nat → Nat → Scaled
  | 0, n => ⟨gridFloor i (order - n), order - n⟩
  | fuel + 1, n =>
    match gridHit? i (order - n) with
    | some a => dropZeros a (order - n)
    | none => firstHit i order fuel (n + 1)

/-- The shortest decimal of `m * 2 ^ e` for a positive mantissa.  Seventeen digits always suffice.
-/
def shortest (m : Nat) (e : Int) : Scaled :=
  let i := Interval.of m e
  firstHit i (decimalOrder i.value i.den) 17 1

end ReportCompiler.Decimal

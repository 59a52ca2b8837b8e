import ReportCompiler.Decimal.Digits

/-!
# Binary floating-point numbers

Cell values and the numbers of result documents are 64-bit binary floating-point numbers.  They are
only read, compared with a bound and written, so they are held here as exact integers: a sign, a
mantissa below `2 ^ 53` and a power of two.

* `Binary64` - the numbers, with both zeros, the infinities and the value that is no number.
* `roundRatio` - the number nearest to a quotient, a tie going to the even mantissa.
* `ofScaled` - the number nearest to a decimal.
* `mul`, `div` - product and quotient of two magnitudes, each rounded once.
* `integer?` - the whole number that a finite value is equal to.
-/

namespace ReportCompiler.Decimal

/-- A 64-bit binary floating-point number. -/
inductive Binary64
  /-- The value that is no number. -/
  | nan
  /-- An infinity with its sign. -/
  | infinite (negative : Bool)
  /-- `mantissa * 2 ^ exponent` with a sign; zero has a sign too. -/
  | finite (negative : Bool) (mantissa : Nat) (exponent : Int)
  deriving DecidableEq, Repr, Inhabited

namespace Binary64

/-- The least exponent, that of the subnormal numbers. -/
def minExponent : Int := -1074

/-- The greatest exponent. -/
def maxExponent : Int := 971

/-- The least mantissa of a normal number. -/
def hiddenBit : Nat := twoTo 52

/-- Zero with a sign. -/
def zero (negative : Bool) : Binary64 :=
  .finite negative 0 minExponent

/-- The same magnitude with the sign given. -/
def withSign (negative : Bool) : Binary64 → Binary64
  | .nan => .nan
  | .infinite _ => .infinite negative
  | .finite _ m e => .finite negative m e

/-- `num / den` as a fraction of `2 ^ e`: numerator and denominator of `num / den / 2 ^ e`. -/
def scaleBy (num den : Nat) (e : Int) : Nat × Nat :=
  if 0 ≤ e then (num, den * twoTo e.toNat) else (num * twoTo (-e).toNat, den)

/-- The quotient rounded to the nearest whole number, a tie to the even one. -/
def roundDiv (num den : Nat) : Nat :=
  let q := num / den
  let twice := 2 * (num % den)
  if den < twice || (twice == den && q % 2 == 1) then q + 1 else q

/-- The exponent that leaves `num / den` a mantissa of 53 bits, or the least exponent if it has to
be smaller than that. -/
def exponentFor (num den : Nat) : Int :=
  let low : Int := (num.log2 : Int) - den.log2 - 53
  let (n, d) := scaleBy num den low
  max minExponent (if 2 * hiddenBit ≤ n / d then low + 1 else low)

/-- The number nearest to `num / den`; a magnitude past the greatest finite one is infinite. -/
def roundRatio (negative : Bool) (num den : Nat) : Binary64 :=
  if num = 0 then zero negative
  else
    let e := exponentFor num den
    let (n, d) := scaleBy num den e
    let m := roundDiv n d
    let (m, e) := if m = 2 * hiddenBit then (hiddenBit, e + 1) else (m, e)
    if maxExponent < e then .infinite negative else .finite negative m e

/-- The number nearest to a decimal.  A decimal far outside the range of the format is settled by
its order of magnitude alone. -/
def ofScaled (negative : Bool) (s : Scaled) : Binary64 :=
  let order := s.exponent + digitCount s.digits
  if s.digits = 0 || order < -400 then zero negative
  else if 400 < order then .infinite negative
  else if 0 ≤ s.exponent then roundRatio negative (s.digits * tenTo s.exponent.toNat) 1
  else roundRatio negative s.digits (tenTo (-s.exponent).toNat)

/-- The magnitude `m * 2 ^ e` as a fraction. -/
def ratio (m : Nat) (e : Int) : Nat × Nat :=
  if 0 ≤ e then (m * twoTo e.toNat, 1) else (m, twoTo (-e).toNat)

/-- The product of two finite magnitudes, rounded once. -/
def mul (m₁ : Nat) (e₁ : Int) (m₂ : Nat) (e₂ : Int) : Binary64 :=
  let (n, d) := ratio (m₁ * m₂) (e₁ + e₂)
  roundRatio false n d

/-- The quotient of two finite magnitudes, rounded once. -/
def div (m₁ : Nat) (e₁ : Int) (m₂ : Nat) (e₂ : Int) : Binary64 :=
  let (n₁, d₁) := ratio m₁ e₁
  let (n₂, d₂) := ratio m₂ e₂
  roundRatio false (n₁ * d₂) (d₁ * n₂)

/-- The whole number that the magnitude `m * 2 ^ e` is equal to. -/
def wholeMagnitude? (m : Nat) (e : Int) : Option Nat :=
  if 0 ≤ e then some (m * twoTo e.toNat)
  else if m % twoTo (-e).toNat = 0 then some (m / twoTo (-e).toNat)
  else none

/-- Sign and magnitude of the whole number that a finite value is equal to. -/
def integer? : Binary64 → Option (Bool × Nat)
  | .finite negative m e => (wholeMagnitude? m e).map (negative, ·)
  | _ => none

end Binary64

end ReportCompiler.Decimal

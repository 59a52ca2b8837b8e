import ReportCompiler.Decimal.Numeral
import ReportCompiler.Json.Value

/-!
# Numbers of JSON documents

The digits of a number are gathered as long as they fit into 64 bits.  An integer that fits stays
one; every other number is the gathered significand times a power of ten, in floating point with one
rounding for each step.  That may differ from the nearest number in the last place.

* `gatherDigits` - the significand of digits, and how many of them it took.
* `scaleByTen` - a significand times a power of ten.
* `readNumber` - a number, and the text after it.
-/

namespace ReportCompiler.Json

open Decimal (Binary64)

/-- Continues a significand with digits until one does not fit into 64 bits; gives the significand
and the number of digits taken. -/
def gatherDigits (significand : Nat) : List Char → Nat × Nat
  | [] => (significand, 0)
  | c :: rest =>
    let next := significand * 10 + (c.toNat - '0'.toNat)
    if next < Decimal.twoTo 64 then
      let (s, taken) := gatherDigits next rest
      (s, taken + 1)
    else (significand, 0)

/-- The greatest power of ten that is a number. -/
def maxPower : Nat := 308

/-- A power of ten. -/
def powerOfTen (n : Nat) : Binary64 :=
  .ofScaled false ⟨1, n⟩

/-- The product of two magnitudes. -/
def times : Binary64 → Binary64 → Binary64
  | .finite _ m₁ e₁, .finite _ m₂ e₂ => .mul m₁ e₁ m₂ e₂
  | x, _ => x

/-- The quotient of two magnitudes. -/
def dividedBy : Binary64 → Binary64 → Binary64
  | .finite _ m₁ e₁, .finite _ m₂ e₂ => .div m₁ e₁ m₂ e₂
  | x, _ => x

/-- A magnitude that is not infinite. -/
def finite? (x : Binary64) : Option Binary64 :=
  match x with
  | .infinite _ => none
  | _ => some x

/-- The magnitude `x` times a power of ten.  Powers below the least one take several steps. -/
def scaleByTen (x : Binary64) (e : Int) : Option Binary64 :=
  if e.natAbs ≤ maxPower then
    if 0 ≤ e then finite? (times x (powerOfTen e.toNat))
    else some (dividedBy x (powerOfTen e.natAbs))
  else if x = .zero false then some x
  else if 0 ≤ e then none
  else scaleByTen (dividedBy x (powerOfTen maxPower)) (e + maxPower)
termination_by e.natAbs
decreasing_by simp only [maxPower] at *; omega

/-- The number with this significand, power of ten and sign. -/
def floatOf (negative : Bool) (significand : Nat) (e : Int) : Option Value :=
  (scaleByTen (.roundRatio false significand 1) e).map fun x => .float (x.withSign negative)

/-- An integer if it fits into 64 bits, and a floating-point number otherwise; so is a negative
zero. -/
def integerOf (negative : Bool) (n : Nat) : Option Value :=
  if !negative then some (.integer n)
  else if 0 < n && n ≤ Decimal.twoTo 63 then some (.integer (-n))
  else floatOf true n 0

/-- The greatest exponent that is looked at. -/
def maxExponent : Nat := Decimal.twoTo 31 - 1

/-- An exponent after its letter: its sign, its magnitude and the text after it. -/
def readExponent (cs : List Char) : Option (Bool × Nat × List Char) :=
  let (negative, cs) := match cs with
    | '+' :: rest => (false, rest)
    | '-' :: rest => (true, rest)
    | _ => (false, cs)
  let digits := cs.takeWhile Char.isDigit
  if digits.isEmpty then none
  else some (negative, Decimal.ofDigits digits, cs.dropWhile Char.isDigit)

/-- The number of a significand that is counted in units of a power of ten, with the exponent that
may follow. -/
def finishFloat (negative : Bool) (significand : Nat) (unit : Int) (cs : List Char) :
    Option (Value × List Char) :=
  match cs with
  | c :: rest =>
    if c = 'e' || c = 'E' then do
      let (down, e, rest) ← readExponent rest
      if maxExponent < e then
        if significand ≠ 0 && !down then none
        else some (.float (.zero negative), rest)
      else (floatOf negative significand (if down then unit - e else unit + e)).map (·, rest)
    else (floatOf negative significand unit).map (·, cs)
  | [] => (floatOf negative significand unit).map (·, [])

/-- The digits after the point, of which there is at least one; those that do not fit are dropped.
-/
def readFraction (negative : Bool) (significand : Nat) (unit : Int) (cs : List Char) :
    Option (Value × List Char) :=
  let digits := cs.takeWhile Char.isDigit
  if digits.isEmpty then none
  else
    let (s, taken) := gatherDigits significand digits
    finishFloat negative s (unit - taken) (cs.dropWhile Char.isDigit)

/-- Digits of a whole part, which begins with a zero only if it is zero. -/
def isWholePart (digits : List Char) : Bool :=
  match digits with
  | [] => false
  | '0' :: rest => rest.isEmpty
  | _ => true

/-- A number after its sign. -/
def readUnsigned (negative : Bool) (cs : List Char) : Option (Value × List Char) :=
  let digits := cs.takeWhile Char.isDigit
  let rest := cs.dropWhile Char.isDigit
  if !isWholePart digits then none
  else
    let (significand, taken) := gatherDigits 0 digits
    let dropped := digits.length - taken
    match rest with
    | '.' :: rest => readFraction negative significand dropped rest
    | c :: _ =>
      if c = 'e' || c = 'E' || dropped ≠ 0 then finishFloat negative significand dropped rest
      else (integerOf negative significand).map (·, rest)
    | [] =>
      if dropped ≠ 0 then finishFloat negative significand dropped []
      else (integerOf negative significand).map (·, [])

/-- A number, and the text after it. -/
def readNumber (cs : List Char) : Option (Value × List Char) :=
  match cs with
  | '-' :: rest => readUnsigned true rest
  | _ => readUnsigned false cs

end ReportCompiler.Json

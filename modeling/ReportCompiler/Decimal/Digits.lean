/-!
# Decimal digits

* `twoTo`, `tenTo` - powers of the two bases.
* `digitValue`, `ofDigits` - the number that a list of digits stands for.
* `digitCount` - how many decimal digits a number has, none for zero.
* `dropZeros` - a coefficient and exponent with the trailing zeros moved into the exponent.
-/

namespace ReportCompiler.Decimal

/-- A power of two. -/
def twoTo (n : Nat) : Nat :=
  Nat.pow 2 n

/-- A power of ten. -/
def tenTo (n : Nat) : Nat :=
  Nat.pow 10 n

/-- The value of a digit character. -/
def digitValue (c : Char) : Nat :=
  c.toNat - '0'.toNat

/-- The number that decimal digits stand for. -/
def ofDigits (cs : List Char) : Nat :=
  cs.foldl (fun n c => n * 10 + digitValue c) 0

/-- The number of decimal digits; zero has none. -/
def digitCount (n : Nat) : Nat :=
  if h : n = 0 then 0 else digitCount (n / 10) + 1
termination_by n
decreasing_by omega

/-- A number written as coefficient times a power of ten. -/
structure Scaled where
  /-- The coefficient. -/
  digits : Nat
  /-- The power of ten. -/
  exponent : Int
  deriving DecidableEq, Repr

/-- Trailing zeros of the coefficient moved into the exponent; zero stays as it is. -/
def dropZeros (d : Nat) (e : Int) : Scaled :=
  if h : d ≠ 0 ∧ d % 10 = 0 then dropZeros (d / 10) (e + 1) else ⟨d, e⟩
termination_by d
decreasing_by omega

end ReportCompiler.Decimal

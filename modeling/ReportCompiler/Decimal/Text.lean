import ReportCompiler.Decimal.Shortest

/-!
# Numbers as text

Three ways to write a number, all with the fewest digits that read back.

* `positional` - the digits with a point, and never an exponent.
* `valueText` - a number on its own: positional, with `-0`, `inf` and `NaN`.
* `literalText` - a number as a literal of a program: whole numbers below `10 ^ 15` as integers.
* `documentText` - a number of a result document: a point is always shown, and an exponent is used
  outside `10 ^ -4 ≤ x < 10 ^ 16`.
-/

namespace ReportCompiler.Decimal

/-- The decimal digits of a number as text. -/
def digitText (n : Nat) : String :=
  String.ofList (Nat.toDigits 10 n)

/-- So many zeros. -/
def zeros (n : Nat) : String :=
  String.ofList (List.replicate n '0')

/-- A minus sign for a negative number. -/
def signText (negative : Bool) : String :=
  if negative then "-" else ""

/-- The decimal with a point where one is needed, and no exponent. -/
def positional (s : Scaled) : String :=
  let ds := Nat.toDigits 10 s.digits
  let point : Int := ds.length + s.exponent
  if 0 ≤ s.exponent then String.ofList ds ++ zeros s.exponent.toNat
  else if point ≤ 0 then "0." ++ zeros (-point).toNat ++ String.ofList ds
  else String.ofList (ds.take point.toNat) ++ "." ++ String.ofList (ds.drop point.toNat)

/-- The exponent of the decimal's first digit. -/
def leadingExponent (s : Scaled) : Int :=
  (Nat.toDigits 10 s.digits).length - 1 + s.exponent

/-- The decimal's digits with a point after the first, if more follow. -/
def pointedDigits (s : Scaled) : String :=
  match Nat.toDigits 10 s.digits with
  | [] => "0"
  | [d] => String.ofList [d]
  | d :: rest => String.ofList (d :: '.' :: rest)

/-- A number on its own. -/
def valueText : Binary64 → String
  | .nan => "NaN"
  | .infinite negative => signText negative ++ "inf"
  | .finite negative m e =>
    signText negative ++ (if m = 0 then "0" else positional (shortest m e))

/-- A number as a literal of a program.  A whole number below `10 ^ 15` has no sign of zero. -/
def literalText (n : Binary64) : String :=
  match n.integer? with
  | some (negative, k) =>
    if k < tenTo 15 then (if negative && k != 0 then "-" else "") ++ digitText k else valueText n
  | none => valueText n

/-- An exponent with its sign and at least two digits. -/
def exponentText (e : Int) : String :=
  let ds := Nat.toDigits 10 e.natAbs
  (if e < 0 then "-" else "+") ++ zeros (2 - ds.length) ++ String.ofList ds

/-- A finite number of a result document is written with an exponent: it is not zero and lies
outside `10 ^ -4 ≤ x < 10 ^ 16`. -/
def needsExponent (m : Nat) (e : Int) : Bool :=
  let (n, d) := Binary64.ratio m e
  m != 0 && (n * tenTo 4 < d || tenTo 16 * d ≤ n)

/-- A number of a result document. -/
def documentText : Binary64 → String
  | .nan => "nan"
  | .infinite negative => signText negative ++ "inf"
  | .finite negative m e =>
    signText negative ++
      if needsExponent m e then
        let s := shortest m e
        pointedDigits s ++ "e" ++ exponentText (leadingExponent s)
      else match Binary64.wholeMagnitude? m e with
        | some k => digitText k ++ ".0"
        | none => positional (shortest m e)

end ReportCompiler.Decimal

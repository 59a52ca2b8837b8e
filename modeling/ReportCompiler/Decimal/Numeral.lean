import ReportCompiler.Decimal.Binary64

/-!
# Numerals

The texts that stand for a number: digits with an optional point, at least one digit before or after
it, and an optional exponent with an optional sign.  Leading zeros and a bare point at either end
are allowed.

* `Numeral` - the parts of such a text, and `Numeral.value` the decimal it stands for.
* `numeral?` - reads the whole of a text as a numeral.
* `isNumeral` - some numeral is written so.
* `number?` - reads a signed numeral, or the name of an infinity or of the value that is no number.
-/

namespace ReportCompiler.Decimal

/-- The parts of a numeral. -/
structure Numeral where
  /-- Digits before the point. -/
  whole : List Char
  /-- Digits after the point. -/
  fraction : List Char
  /-- The power of ten of the exponent part, zero when there is none. -/
  power : Int
  deriving DecidableEq, Repr

/-- The decimal that a numeral stands for. -/
def Numeral.value (n : Numeral) : Scaled :=
  ⟨ofDigits (n.whole ++ n.fraction), n.power - n.fraction.length⟩

/-- A sign in front of a text: true for minus, and the text after it. -/
def splitSign : List Char → Bool × List Char
  | '-' :: rest => (true, rest)
  | '+' :: rest => (false, rest)
  | cs => (false, cs)

/-- The digits of an exponent, all of the text and at least one. -/
def exponentDigits? (cs : List Char) : Option Nat :=
  if !cs.isEmpty && cs.all Char.isDigit then some (ofDigits cs) else none

/-- What may follow the mantissa: nothing, or an exponent that ends the text. -/
def power? : List Char → Option Int
  | [] => some 0
  | c :: rest =>
    if c = 'e' || c = 'E' then
      let (negative, digits) := splitSign rest
      (exponentDigits? digits).map fun n => if negative then -(n : Int) else n
    else none

/-- The fraction digits after a point, if there is a point, and the rest of the text. -/
def splitFraction : List Char → List Char × List Char
  | '.' :: rest => (rest.takeWhile Char.isDigit, rest.dropWhile Char.isDigit)
  | cs => ([], cs)

/-- The whole text read as a numeral without sign. -/
def numeral? (cs : List Char) : Option Numeral :=
  let whole := cs.takeWhile Char.isDigit
  let (fraction, rest) := splitFraction (cs.dropWhile Char.isDigit)
  if whole.isEmpty && fraction.isEmpty then none
  else (power? rest).map (⟨whole, fraction, ·⟩)

/-- The text is a numeral without sign. -/
def isNumeral (cs : List Char) : Bool :=
  (numeral? cs).isSome

/-- The number that a text stands for: a numeral, `inf`, `infinity` or `nan` in any case, with an
optional sign. -/
def number? (s : String) : Option Binary64 :=
  let (negative, cs) := splitSign s.toList
  let folded := String.ofList (cs.map Char.toLower)
  if folded = "inf" || folded = "infinity" then some (.infinite negative)
  else if folded = "nan" then some .nan
  else (numeral? cs).map fun n => .ofScaled negative n.value

end ReportCompiler.Decimal

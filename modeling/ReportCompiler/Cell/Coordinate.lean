import ReportCompiler.Decimal.Digits
import ReportCompiler.Text.Blank

/-!
# Columns and coordinates

A column is numbered from zero and written with letters: after `Z` comes `AA`.  A coordinate is
column letters followed by a row number that counts from one.

* `columnLetters`, `column?` - writing and reading a column.
* `Coordinate` - a position on a sheet, with `Coordinate.text` and `coordinate?`.
* `columnRange?` - the columns from one to another.

Reading keeps to the limits of a sheet; writing has none.
-/

namespace ReportCompiler

/-- The rows that a sheet can have. -/
def maxRows : Nat := 1048576

/-- The columns that a sheet can have. -/
def maxColumns : Nat := 16384

/-- The letter of the digit `n` below twenty-six. -/
def columnLetter (n : Nat) : Char :=
  Char.ofNat ('A'.toNat + n)

/-- The letters of a column. -/
def columnLetters (col : Nat) : List Char :=
  if _h : col < 26 then [columnLetter col]
  else columnLetters (col / 26 - 1) ++ [columnLetter (col % 26)]
termination_by col
decreasing_by omega

/-- The value of a column letter, from one to twenty-six. -/
def letterValue (c : Char) : Nat :=
  c.toUpper.toNat - 'A'.toNat + 1

/-- The number that column letters stand for, counted from one. -/
def lettersValue (cs : List Char) : Nat :=
  cs.foldl (fun n c => n * 26 + letterValue c) 0

/-- Column letters read to a column: one to three ASCII letters, within the limit of a sheet. -/
def column? (cs : List Char) : Option Nat :=
  if cs.isEmpty || 3 < cs.length || !cs.all Char.isAlpha then none
  else
    let col := lettersValue cs - 1
    if col < maxColumns then some col else none

/-- A position on a sheet, both numbers counted from zero. -/
structure Coordinate where
  /-- The row. -/
  row : Nat
  /-- The column. -/
  col : Nat
  deriving DecidableEq, Repr, Inhabited

namespace Coordinate

/-- Column letters and the row counted from one. -/
def chars (p : Coordinate) : List Char :=
  columnLetters p.col ++ Nat.toDigits 10 (p.row + 1)

/-- The coordinate as text. -/
def text (p : Coordinate) : String :=
  String.ofList p.chars

/-- The position lies on a sheet. -/
def InSheet (p : Coordinate) : Prop :=
  p.row < maxRows ∧ p.col < maxColumns

instance (p : Coordinate) : Decidable p.InSheet :=
  inferInstanceAs (Decidable (_ ∧ _))

/-- Row by row, and from left to right in a row. -/
def order : Coordinate → Coordinate → Ordering :=
  compareLex (compareOn Coordinate.row) (compareOn Coordinate.col)

end Coordinate

/-- A coordinate without blanks around it and without dollar signs. -/
def bareCoordinate? (cs : List Char) : Option Coordinate :=
  let letters := cs.takeWhile fun c => !c.isDigit
  let digits := cs.dropWhile fun c => !c.isDigit
  if digits.isEmpty || !digits.all Char.isDigit then none
  else (column? letters).bind fun col =>
    let row := Decimal.ofDigits digits
    if row = 0 || maxRows < row then none else some ⟨row - 1, col⟩

/-- Reads a coordinate.  Blanks around it and dollar signs anywhere are ignored. -/
def coordinate? (s : String) : Option Coordinate :=
  bareCoordinate? ((Text.trimChars s.toList).filter (· != '$'))

/-- The columns from `first` to `last`, both included. -/
def columnSpan (first last : Nat) : List Nat :=
  (List.range (last + 1 - first)).map (first + ·)

/-- The columns between two columns given by letters, both included. -/
def columnRange? (first last : String) : Option (List Nat) := do
  let begin ← column? first.toList
  let final ← column? last.toList
  return columnSpan begin final

end ReportCompiler
